import Devnest.Notifications

/-!
# Notifications side by side

Any number of notifications are created, retried, read and dismissed at the
same time, one commit after another in any order, and a process may die
anywhere. Whatever the order, nothing goes out on a channel that its user had
switched off (`notifications_permitted`), a notification that was created has one
delivery for each recipient and channel (`created_settles`), and what is the
user's own is changed by that user alone (`only_own_requests`).

`Ok` is the invariant. Each process owns the recipients it has made: it alone
adds deliveries to them, which is what the others rely on.
-/

namespace Devnest

open Interleaving Interleaving.Process

/-! ## What the log says -/

/-- The preference row of a user for a type, as the last commit on it left it. -/
def storedSwitches (userId : Nat) (notificationType : String) :
    List NotificationEntry → Option ChannelSwitches
  | [] => none
  | .preference u t row :: log =>
      if u = userId ∧ t = notificationType then some row
      else storedSwitches userId notificationType log
  | _ :: log => storedSwitches userId notificationType log

/-- The messages about a delivery that a request has handed to the mail server. -/
def mails (request deliveryId : Nat) (log : List NotificationEntry) : Nat :=
  log.countP fun
    | .mailed k id _ _ => k = request && id = deliveryId
    | _ => false

namespace NotificationDb

/-- The request has made this recipient. -/
def Owns (s : NotificationDb) (request recipientId : Nat) : Prop :=
  .recipient request recipientId ∈ s.log

/-- When the channels of this recipient were resolved, the preference row stored for its user
allowed these. -/
def Resolved (s : NotificationDb) (recipientId : Nat) (enabled : List DeliveryChannel) : Prop :=
  ∃ r n newer older, s.recipients.lookup recipientId = some r ∧
    s.notifications.lookup r.notificationId = some n ∧
    s.log = newer ++ .resolved recipientId r.userId n.type enabled :: older ∧
    enabled = enabledChannels (storedSwitches r.userId n.type older)

/-- A message about this delivery may go to this address: it is the address of the recipient, and
the delivery an email that is not skipped. -/
def Addressed (s : NotificationDb) (deliveryId : Nat) (toEmail : String) : Prop :=
  ∃ d r, s.deliveries.lookup deliveryId = some d ∧ d.channel = .email ∧ d.status ≠ .skipped ∧
    s.recipients.lookup d.notificationRecipientId = some r ∧
      toEmail = (s.users.lookup r.userId).getD ""

end NotificationDb

open NotificationDb

/-! ## What actions do -/

/-- A delivery keeps its place, and a skipped one stays as it is. -/
structure NotificationDelivery.Becomes (d d' : NotificationDelivery) : Prop where
  notificationId : d'.notificationId = d.notificationId
  recipientId : d'.notificationRecipientId = d.notificationRecipientId
  channel : d'.channel = d.channel
  skipped : d'.status = .skipped ↔ d.status = .skipped
  untouched : d.status = .skipped → d' = d
  attempted : 0 < d.attemptCount → 0 < d'.attemptCount

theorem NotificationDelivery.Becomes.refl (d : NotificationDelivery) : d.Becomes d :=
  ⟨rfl, rfl, rfl, .rfl, fun _ => rfl, id⟩

theorem NotificationDelivery.Becomes.trans {d d' d'' : NotificationDelivery} (h : d.Becomes d')
    (h' : d'.Becomes d'') : d.Becomes d'' :=
  ⟨h'.notificationId.trans h.notificationId, h'.recipientId.trans h.recipientId,
    h'.channel.trans h.channel, h'.skipped.trans h.skipped,
    fun hs => (h'.untouched (h.skipped.mpr hs)).trans (h.untouched hs),
    fun hpos => h'.attempted (h.attempted hpos)⟩

/-- Rows stay, with what they are about, and so does the log. -/
structure Evolves (s s' : NotificationDb) : Prop where
  users : s'.users = s.users
  log : ∃ new, s'.log = new ++ s.log
  notifications : ∀ id n, s.notifications.lookup id = some n →
    ∃ n', s'.notifications.lookup id = some n' ∧ n'.type = n.type
  recipients : ∀ id r, s.recipients.lookup id = some r →
    ∃ r', s'.recipients.lookup id = some r' ∧ r'.notificationId = r.notificationId ∧
      r'.userId = r.userId
  deliveries : ∀ id d, s.deliveries.lookup id = some d →
    ∃ d', s'.deliveries.lookup id = some d' ∧ d.Becomes d'

theorem Evolves.refl (s : NotificationDb) : Evolves s s :=
  ⟨rfl, ⟨[], rfl⟩, fun _ n h => ⟨n, h, rfl⟩, fun _ r h => ⟨r, h, rfl, rfl⟩,
    fun _ d h => ⟨d, h, .refl d⟩⟩

theorem Evolves.mem_log {s s' : NotificationDb} (h : Evolves s s') {e : NotificationEntry}
    (he : e ∈ s.log) : e ∈ s'.log := by
  obtain ⟨new, hnew⟩ := h.log
  exact hnew ▸ List.mem_append_right new he

theorem Evolves.resolved {s s' : NotificationDb} (h : Evolves s s') {recipientId : Nat}
    {enabled : List DeliveryChannel} (hr : s.Resolved recipientId enabled) :
    s'.Resolved recipientId enabled := by
  obtain ⟨r, n, newer, older, hr, hn, hlog, henabled⟩ := hr
  obtain ⟨r', hr', hnid, huser⟩ := h.recipients _ r hr
  obtain ⟨n', hn', htype⟩ := h.notifications _ n hn
  obtain ⟨new, hnew⟩ := h.log
  refine ⟨r', n', new ++ newer, older, hr', hnid ▸ hn', ?_, ?_⟩
  · rw [hnew, hlog, huser, htype, List.append_assoc]
  · rw [huser, htype]
    exact henabled

theorem Evolves.addressed {s s' : NotificationDb} (h : Evolves s s') {id : Nat} {toEmail : String}
    (haddressed : s.Addressed id toEmail) : s'.Addressed id toEmail := by
  obtain ⟨d, r, hd, hchannel, hne, hr, hto⟩ := haddressed
  obtain ⟨d', hd', hbec⟩ := h.deliveries id d hd
  obtain ⟨r', hr', -, huser⟩ := h.recipients _ r hr
  refine ⟨d', r', hd', hbec.channel.trans hchannel, fun h => hne (hbec.skipped.mp h), ?_, ?_⟩
  · rw [hbec.recipientId]
    exact hr'
  · rw [huser, h.users]
    exact hto

/-- No delivery is new. -/
def NoNewDelivery (s s' : NotificationDb) : Prop :=
  ∀ id d, s'.deliveries.lookup id = some d → ∃ d₀, s.deliveries.lookup id = some d₀

/-- The others add no delivery to the recipients of this request. -/
structure RowsKept (request : Nat) (s s' : NotificationDb) : Prop extends Evolves s s' where
  theirs : ∀ id d, s'.deliveries.lookup id = some d → s.deliveries.lookup id = none →
    ¬ s.Owns request d.notificationRecipientId

/-- What the other requests do, seen from this one. -/
structure Rely (request : Nat) (s s' : NotificationDb) : Prop extends RowsKept request s s' where
  mails : ∀ id, mails request id s'.log = mails request id s.log

/-- What this request does. -/
structure Guarantee (request : Nat) (s s' : NotificationDb) : Prop extends Evolves s s' where
  own : ∀ id d, s'.deliveries.lookup id = some d → s.deliveries.lookup id = none →
    s'.Owns request d.notificationRecipientId
  mails : ∀ k id, k ≠ request → mails k id s'.log = mails k id s.log

/-- A step that adds no delivery and sends no mail. -/
structure Quiet (s s' : NotificationDb) : Prop extends Evolves s s' where
  none_new : NoNewDelivery s s'
  mails : ∀ k id, mails k id s'.log = mails k id s.log

theorem Quiet.refl (s : NotificationDb) : Quiet s s :=
  ⟨.refl s, fun _ d h => ⟨d, h⟩, fun _ _ => rfl⟩

theorem NoNewDelivery.ne_none {s s' : NotificationDb} (h : NoNewDelivery s s') {id : Nat}
    {d : NotificationDelivery} (hd : s'.deliveries.lookup id = some d) :
    s.deliveries.lookup id ≠ none := by
  obtain ⟨d₀, hd₀⟩ := h id d hd
  rw [hd₀]
  exact Option.some_ne_none d₀

theorem Quiet.rowsKept {s s' : NotificationDb} (h : Quiet s s') (k : Nat) : RowsKept k s s' :=
  ⟨h.toEvolves, fun _ _ hd hnone => absurd hnone (h.none_new.ne_none hd)⟩

theorem Quiet.guarantee {s s' : NotificationDb} (h : Quiet s s') (k : Nat) : Guarantee k s s' :=
  ⟨h.toEvolves, fun _ _ hd hnone => absurd hnone (h.none_new.ne_none hd),
    fun k' id _ => h.mails k' id⟩

/-! ## The invariant -/

structure Ok (s : NotificationDb) : Prop where
  one_owner : ∀ k j id, s.Owns k id → s.Owns j id → k = j
  owned : ∀ k id, s.Owns k id → ∃ r, s.recipients.lookup id = some r
  one_recipient : ∀ id id' r r', s.recipients.lookup id = some r →
    s.recipients.lookup id' = some r' → r'.notificationId = r.notificationId →
      r'.userId = r.userId → id' = id
  one_delivery : ∀ id id' d d', s.deliveries.lookup id = some d →
    s.deliveries.lookup id' = some d' →
      d'.notificationRecipientId = d.notificationRecipientId → d'.channel = d.channel → id' = id
  of_recipient : ∀ id d, s.deliveries.lookup id = some d →
    ∃ r, s.recipients.lookup d.notificationRecipientId = some r
  skipped : ∀ id d, s.deliveries.lookup id = some d → d.status = .skipped → d.attemptCount = 0
  permitted : ∀ id d, s.deliveries.lookup id = some d → d.status ≠ .skipped →
    ∃ enabled, s.Resolved d.notificationRecipientId enabled ∧ d.channel ∈ enabled
  preferences : ∀ userId t, s.preferences.lookup (userId, t) = storedSwitches userId t s.log
  mailed : ∀ k id message answer, .mailed k id message answer ∈ s.log →
    s.Addressed id message.toEmail
  mails_le : ∀ k id, mails k id s.log ≤ 1

/-- What one request guarantees is what the others rely on. -/
theorem Guarantee.rely {j k : Nat} (hjk : j ≠ k) {s s' : NotificationDb} (hok : Ok s')
    (h : Guarantee j s s') : Rely k s s' := by
  refine ⟨⟨h.toEvolves, fun id d hd hnone howns => ?_⟩, fun id => h.mails k id hjk.symm⟩
  exact hjk (hok.one_owner j k _ (h.own id d hd hnone) (h.toEvolves.mem_log howns))

/-- A change that adds no row with an identity of its own. -/
structure Unchanging (s s' : NotificationDb) : Prop extends Evolves s s' where
  recipients_back : ∀ id r', s'.recipients.lookup id = some r' →
    ∃ r, s.recipients.lookup id = some r ∧ r'.notificationId = r.notificationId ∧
      r'.userId = r.userId
  deliveries_back : ∀ id d', s'.deliveries.lookup id = some d' →
    ∃ d, s.deliveries.lookup id = some d ∧ d.Becomes d'
  owners : ∀ k id, s'.Owns k id → s.Owns k id
  preferences : ∀ userId t, s'.preferences.lookup (userId, t) = storedSwitches userId t s'.log

theorem Ok.unchanging {s s' : NotificationDb} (hok : Ok s) (h : Unchanging s s')
    (hmailed : ∀ k id message answer, .mailed k id message answer ∈ s'.log →
      s'.Addressed id message.toEmail) (hle : ∀ k id, mails k id s'.log ≤ 1) : Ok s' where
  one_owner k j id hk hj := hok.one_owner k j id (h.owners k id hk) (h.owners j id hj)
  owned k id hk := by
    obtain ⟨r, hr⟩ := hok.owned k id (h.owners k id hk)
    exact (h.toEvolves.recipients id r hr).imp fun _ h => h.1
  one_recipient id id' r r' hr hr' hnid huser := by
    obtain ⟨r₀, hr₀, hnid₀, huser₀⟩ := h.recipients_back id r hr
    obtain ⟨r₁, hr₁, hnid₁, huser₁⟩ := h.recipients_back id' r' hr'
    refine hok.one_recipient id id' r₀ r₁ hr₀ hr₁ ?_ ?_
    · rw [← hnid₁, hnid, hnid₀]
    · rw [← huser₁, huser, huser₀]
  one_delivery id id' d d' hd hd' hrid hchannel := by
    obtain ⟨d₀, hd₀, hbec₀⟩ := h.deliveries_back id d hd
    obtain ⟨d₁, hd₁, hbec₁⟩ := h.deliveries_back id' d' hd'
    refine hok.one_delivery id id' d₀ d₁ hd₀ hd₁ ?_ ?_
    · rw [← hbec₁.recipientId, hrid, hbec₀.recipientId]
    · rw [← hbec₁.channel, hchannel, hbec₀.channel]
  of_recipient id d hd := by
    obtain ⟨d₀, hd₀, hbec⟩ := h.deliveries_back id d hd
    obtain ⟨r, hr⟩ := hok.of_recipient id d₀ hd₀
    rw [hbec.recipientId]
    exact (h.toEvolves.recipients _ r hr).imp fun _ h => h.1
  skipped id d hd hskipped := by
    obtain ⟨d₀, hd₀, hbec⟩ := h.deliveries_back id d hd
    have hskipped₀ := hbec.skipped.mp hskipped
    rw [hbec.untouched hskipped₀]
    exact hok.skipped id d₀ hd₀ hskipped₀
  permitted id d hd hne := by
    obtain ⟨d₀, hd₀, hbec⟩ := h.deliveries_back id d hd
    obtain ⟨enabled, hresolved, hmem⟩ := hok.permitted id d₀ hd₀ fun h => hne (hbec.skipped.mpr h)
    rw [hbec.recipientId, hbec.channel]
    exact ⟨enabled, h.toEvolves.resolved hresolved, hmem⟩
  preferences := h.preferences
  mailed := hmailed
  mails_le := hle

/-- A change of one table, with nothing written to the log. -/
theorem Ok.unlogged {s s' : NotificationDb} (hok : Ok s) (hev : Evolves s s')
    (hlog : s'.log = s.log) (hpreferences : s'.preferences = s.preferences)
    (hrecipients : ∀ id r', s'.recipients.lookup id = some r' →
      ∃ r, s.recipients.lookup id = some r ∧ r'.notificationId = r.notificationId ∧
        r'.userId = r.userId)
    (hdeliveries : ∀ id d', s'.deliveries.lookup id = some d' →
      ∃ d, s.deliveries.lookup id = some d ∧ d.Becomes d') : Ok s' ∧ Quiet s s' := by
  refine ⟨hok.unchanging ⟨hev, hrecipients, hdeliveries, fun k id h => by rwa [Owns, hlog] at h,
    fun userId t => ?_⟩ (fun k id m a h => ?_) fun k id => ?_, hev, fun id d hd => ?_,
    fun k id => by rw [hlog]⟩
  · rw [hlog, hpreferences]
    exact hok.preferences userId t
  · rw [hlog] at h
    exact hev.addressed (hok.mailed k id m a h)
  · rw [hlog]
    exact hok.mails_le k id
  · exact (hdeliveries id d hd).imp fun _ h => h.1

/-! ## Rules for the actions -/

/-- The judgement for the request `k`. -/
abbrev Serves (k : Nat) {α : Type} (P : NotificationDb → Prop) (m : NotificationProcess α)
    (Q : α → NotificationDb → Prop) : Prop := Keeps Ok (Rely k) (Guarantee k) P m Q

/-- What the others keep, whatever mails they send. -/
abbrev Lasts (k : Nat) (P : NotificationDb → Prop) : Prop := Stable Ok (RowsKept k) P

theorem Lasts.stable {k : Nat} {P : NotificationDb → Prop} (h : Lasts k P) :
    Stable Ok (Rely k) P := fun s s' hok hrely => h s s' hok hrely.toRowsKept

/-- What every step keeps. -/
theorem lasts_of_evolves {k : Nat} {P : NotificationDb → Prop}
    (h : ∀ s s', Evolves s s' → P s → P s') : Lasts k P :=
  fun s s' _ hkept => h s s' hkept.toEvolves

theorem stable_mails (k id n : Nat) : Stable Ok (Rely k) fun s => mails k id s.log = n :=
  fun _ _ _ hrely h => (hrely.mails id).trans h

section Rules

variable {k : Nat} {P : NotificationDb → Prop}

theorem serves_read {α : Type} {value : NotificationDb → α} {Q : α → NotificationDb → Prop}
    (hQ : ∀ a, Stable Ok (Rely k) (Q a)) (h : ∀ s, Ok s → P s → Q (value s) s) :
    Serves k P (read value) Q :=
  Keeps.read (fun s => (Quiet.refl s).guarantee k) hQ h

/-- A look that nothing depends on. -/
theorem serves_look {α : Type} {value : NotificationDb → α} (hP : Stable Ok (Rely k) P) :
    Serves k P (read value) fun _ => P := serves_read (fun _ => hP) fun _ _ h => h

/-- A quiet action takes nothing away. -/
theorem serves_quiet {α : Type} {next : NotificationDb → NotificationInput → NotificationDb}
    {value : NotificationDb → NotificationInput → α} (hP : Lasts k P)
    (h : ∀ s i, Ok s → P s → Ok (next s i) ∧ Quiet s (next s i)) :
    Serves k P (action next value) fun _ => P :=
  Keeps.action (fun _ => hP.stable) fun s i hok hs =>
    ⟨(h s i hok hs).1, (h s i hok hs).2.guarantee k,
      hP s _ hok ((h s i hok hs).2.rowsKept k) hs⟩

end Rules

/-! ### Updates of a row -/

theorem updateDelivery_quiet {s : NotificationDb} (hok : Ok s) (id : Nat)
    {f : NotificationDelivery → NotificationDelivery}
    (hf : ∀ d, s.deliveries.lookup id = some d → d.Becomes (f d)) :
    Ok (s.updateDelivery id f) ∧ Quiet s (s.updateDelivery id f) := by
  unfold updateDelivery
  split
  next d hd =>
    refine hok.unlogged ⟨rfl, ⟨[], rfl⟩, fun _ n h => ⟨n, h, rfl⟩, fun _ r h => ⟨r, h, rfl, rfl⟩,
      fun id' d' hd' => ?_⟩ rfl rfl (fun _ r h => ⟨r, h, rfl, rfl⟩) fun id' d' hd' => ?_
    · by_cases hid : id' = id
      · subst hid
        obtain rfl := Option.some.inj (hd.symm.trans hd')
        exact ⟨f d, by simp, hf d hd⟩
      · exact ⟨d', by simpa [hid] using hd', .refl d'⟩
    · by_cases hid : id' = id
      · subst hid
        obtain rfl : f d = d' := by simpa using hd'
        exact ⟨d, hd, hf d hd⟩
      · exact ⟨d', by simpa [hid] using hd', .refl d'⟩
  next => exact ⟨hok, .refl s⟩

theorem updateRecipient_quiet {s : NotificationDb} (hok : Ok s) {id : Nat}
    {f : NotificationRecipient → NotificationRecipient}
    (hf : ∀ r, (f r).notificationId = r.notificationId ∧ (f r).userId = r.userId) :
    Ok (s.updateRecipient id f) ∧ Quiet s (s.updateRecipient id f) := by
  unfold updateRecipient
  split
  next r hr =>
    refine hok.unlogged ⟨rfl, ⟨[], rfl⟩, fun _ n h => ⟨n, h, rfl⟩, fun id' r' hr' => ?_,
      fun _ d h => ⟨d, h, .refl d⟩⟩ rfl rfl (fun id' r' hr' => ?_) fun _ d h => ⟨d, h, .refl d⟩
    · by_cases hid : id' = id
      · subst hid
        obtain rfl := Option.some.inj (hr.symm.trans hr')
        exact ⟨f r, by simp, hf r⟩
      · exact ⟨r', by simpa [hid] using hr', rfl, rfl⟩
    · by_cases hid : id' = id
      · subst hid
        obtain rfl : f r = r' := by simpa using hr'
        exact ⟨r, hr, hf r⟩
      · exact ⟨r', by simpa [hid] using hr', rfl, rfl⟩
  next => exact ⟨hok, .refl s⟩

theorem updateNotification_quiet {s : NotificationDb} (hok : Ok s) {id : Nat}
    {f : Notification → Notification} (hf : ∀ n, (f n).type = n.type) :
    Ok (s.updateNotification id f) ∧ Quiet s (s.updateNotification id f) := by
  unfold updateNotification
  split
  next n hn =>
    refine hok.unlogged ⟨rfl, ⟨[], rfl⟩, fun id' n' hn' => ?_, fun _ r h => ⟨r, h, rfl, rfl⟩,
      fun _ d h => ⟨d, h, .refl d⟩⟩ rfl rfl (fun _ r h => ⟨r, h, rfl, rfl⟩)
      fun _ d h => ⟨d, h, .refl d⟩
    by_cases hid : id' = id
    · subst hid
      obtain rfl := Option.some.inj (hn.symm.trans hn')
      exact ⟨f n, by simp, hf n⟩
    · exact ⟨n', by simpa [hid] using hn', rfl⟩
  next => exact ⟨hok, .refl s⟩

/-- An attempt leaves a delivery that is not skipped as one that is not skipped. -/
structure Active (f : NotificationDelivery → NotificationDelivery) : Prop where
  notificationId : ∀ d, (f d).notificationId = d.notificationId
  recipientId : ∀ d, (f d).notificationRecipientId = d.notificationRecipientId
  channel : ∀ d, (f d).channel = d.channel
  status : ∀ d, d.status ≠ .skipped → (f d).status ≠ .skipped
  attempted : ∀ d, 0 < d.attemptCount → 0 < (f d).attemptCount

theorem Active.becomes {f : NotificationDelivery → NotificationDelivery} (hf : Active f)
    {d : NotificationDelivery} (hne : d.status ≠ .skipped) : d.Becomes (f d) :=
  ⟨hf.notificationId d, hf.recipientId d, hf.channel d,
    ⟨fun h => absurd h (hf.status d hne), fun h => absurd h hne⟩, fun h => absurd h hne,
    hf.attempted d⟩

theorem active_delivered (provider : String) (messageId : Option String) :
    Active (·.delivered provider messageId) :=
  ⟨fun _ => rfl, fun _ => rfl, fun _ => rfl, fun _ _ => by simp [NotificationDelivery.delivered],
    fun _ h => h⟩

theorem active_fail (message : String) : Active (·.fail message) :=
  ⟨fun _ => rfl, fun _ => rfl, fun _ => rfl, fun _ _ => by simp [NotificationDelivery.fail],
    fun _ h => h⟩

theorem active_settle (answer : SmtpAnswer) : Active answer.settle := by
  cases answer with
  | accepted messageId => exact active_delivered _ _
  | refused text => exact active_fail _
  | raised text => exact active_fail _

/-- The delivery is there, and is not skipped. -/
def ToDeliver (id : Nat) (s : NotificationDb) : Prop :=
  ∃ d, s.deliveries.lookup id = some d ∧ d.status ≠ .skipped

theorem lasts_toDeliver (k id : Nat) : Lasts k (ToDeliver id) :=
  lasts_of_evolves fun s s' hev ⟨d, hd, hne⟩ => by
    obtain ⟨d', hd', hbec⟩ := hev.deliveries id d hd
    exact ⟨d', hd', fun h => hne (hbec.skipped.mp h)⟩

theorem serves_updateDelivery {k id : Nat} {P : NotificationDb → Prop}
    {f : NotificationDelivery → NotificationDelivery} (hf : Active f) (hP : Lasts k P)
    (hrow : ∀ s, P s → ToDeliver id s) :
    Serves k P (write (·.updateDelivery id f)) fun _ => P :=
  serves_quiet hP fun s _ hok hs => updateDelivery_quiet hok _ fun d hd => by
    obtain ⟨d₀, hd₀, hne⟩ := hrow s hs
    obtain rfl := Option.some.inj (hd.symm.trans hd₀)
    exact hf.becomes hne

/-! ## An attempt -/

/-- The delivery `d` is there, not skipped and attempted. -/
def UnderWay (id : Nat) (d : NotificationDelivery) (s : NotificationDb) : Prop :=
  ∃ d', s.deliveries.lookup id = some d' ∧ d'.status ≠ .skipped ∧ 0 < d'.attemptCount ∧
    d'.notificationRecipientId = d.notificationRecipientId ∧ d'.channel = d.channel

theorem lasts_underWay (k id : Nat) (d : NotificationDelivery) : Lasts k (UnderWay id d) :=
  lasts_of_evolves fun s s' hev ⟨d', hd', hne, hpos, hrid, hchannel⟩ => by
    obtain ⟨d'', hd'', hbec⟩ := hev.deliveries id d' hd'
    exact ⟨d'', hd'', fun h => hne (hbec.skipped.mp h), hbec.attempted hpos,
      hbec.recipientId.trans hrid, hbec.channel.trans hchannel⟩

theorem UnderWay.toDeliver {id : Nat} {d : NotificationDelivery} {s : NotificationDb}
    (h : UnderWay id d s) : ToDeliver id s := by
  obtain ⟨d', hd', hne, -⟩ := h
  exact ⟨d', hd', hne⟩

/-- A delivery has been attempted unless it is skipped. -/
def Attempted (id : Nat) (s : NotificationDb) : Prop :=
  ∃ d, s.deliveries.lookup id = some d ∧ (d.status ≠ .skipped → 0 < d.attemptCount)

/-- The recipient of `d` is this user. -/
def IsFor (d : NotificationDelivery) (userId : Nat) (s : NotificationDb) : Prop :=
  ∃ r, s.recipients.lookup d.notificationRecipientId = some r ∧ r.userId = userId

theorem lasts_isFor (k : Nat) (d : NotificationDelivery) (userId : Nat) :
    Lasts k (IsFor d userId) :=
  lasts_of_evolves fun s s' hev ⟨r, hr, huser⟩ => by
    obtain ⟨r', hr', -, huser'⟩ := hev.recipients _ r hr
    exact ⟨r', hr', huser'.trans huser⟩

theorem lasts_addressed (k id : Nat) (toEmail : String) :
    Lasts k fun s => s.Addressed id toEmail :=
  lasts_of_evolves fun _ _ hev h => hev.addressed h

theorem mails_cons_mailed (k id : Nat) (message : EmailMessage) (answer : SmtpAnswer)
    (log : List NotificationEntry) (k' id' : Nat) :
    mails k' id' (.mailed k id message answer :: log) =
      mails k' id' log + if k = k' ∧ id = id' then 1 else 0 := by
  unfold mails
  rw [List.countP_cons]
  simp only [Bool.and_eq_true, decide_eq_true_eq]

section Attempts

variable {settings : SmtpSettings} {k id : Nat} {P : NotificationDb → Prop}

/-- The one action that is not quiet here: the first mail of this request about this delivery. -/
theorem serves_sendViaSmtp {message : EmailMessage} (hP : Lasts k P)
    (haddressed : ∀ s, P s → s.Addressed id message.toEmail) :
    Serves k (fun s => P s ∧ mails k id s.log = 0) (sendViaSmtp k id message) fun _ => P := by
  refine Keeps.action (fun _ => hP.stable) fun s i hok ⟨hs, hnone⟩ => ?_
  have hmails := mails_cons_mailed k id message i.smtp s.log
  have hev : Evolves s { s with log := .mailed k id message i.smtp :: s.log } :=
    ⟨rfl, ⟨[_], rfl⟩, fun _ n h => ⟨n, h, rfl⟩, fun _ r h => ⟨r, h, rfl, rfl⟩,
      fun _ d h => ⟨d, h, .refl d⟩⟩
  refine ⟨hok.unchanging ⟨hev, fun _ r h => ⟨r, h, rfl, rfl⟩, fun _ d h => ⟨d, h, .refl d⟩,
    fun k' id' h => ?_, hok.preferences⟩ (fun k' id' m a h => ?_) fun k' id' => ?_,
    ⟨hev, fun id' d hd hnone => ?_, fun k' id' hne => ?_⟩, ?_⟩
  · exact (List.mem_cons.mp h).resolve_left NotificationEntry.noConfusion
  · rcases List.mem_cons.mp h with heq | hmem
    · obtain ⟨rfl, rfl, rfl, rfl⟩ := NotificationEntry.mailed.inj heq
      exact hev.addressed (haddressed s hs)
    · exact hev.addressed (hok.mailed k' id' m a hmem)
  · rw [hmails]
    split
    next heq =>
      obtain ⟨rfl, rfl⟩ := heq
      omega
    next => exact hok.mails_le k' id'
  · exact absurd hd (by rw [hnone]; exact (Option.some_ne_none d).symm)
  · rw [hmails, if_neg fun h => hne h.1.symm]
    rfl
  · exact hP s _ hok ⟨hev, fun id' d hd hnone => absurd hd
      (by rw [hnone]; exact (Option.some_ne_none d).symm)⟩ hs

theorem serves_applyEmail {d : NotificationDelivery} {n : Notification} {userId : Nat}
    (hP : Lasts k P) (hchannel : d.channel = .email) :
    Serves k (fun s => (P s ∧ UnderWay id d s ∧ IsFor d userId s) ∧ mails k id s.log = 0)
      (applyEmailDelivery settings k id n userId) fun _ s =>
        P s ∧ UnderWay id d s ∧ IsFor d userId s := by
  have hkept : Lasts k fun s => P s ∧ UnderWay id d s ∧ IsFor d userId s :=
    hP.and ((lasts_underWay k id d).and (lasts_isFor k d userId))
  have hdrop : ∀ {a : NotificationDb → Prop} {f : NotificationDelivery → NotificationDelivery},
      (∀ s, a s → P s ∧ UnderWay id d s ∧ IsFor d userId s) → Active f →
      Serves k a (write (·.updateDelivery id f)) fun _ s =>
        P s ∧ UnderWay id d s ∧ IsFor d userId s := fun ha hf =>
    Keeps.conseq (serves_updateDelivery hf hkept fun s hs => hs.2.1.toDeliver)
      (fun s _ h => ha s h) fun _ _ _ h => h
  unfold applyEmailDelivery
  refine Keeps.bind (S := fun toEmail s => ((P s ∧ UnderWay id d s ∧ IsFor d userId s) ∧
    s.Addressed id toEmail) ∧ mails k id s.log = 0) (serves_read (fun toEmail =>
      Stable.and (Lasts.stable (hkept.and (lasts_addressed k id toEmail))) (stable_mails k id 0))
      fun s _ h => ⟨⟨h.1, ?_⟩, h.2⟩) fun toEmail => ?_
  · obtain ⟨⟨-, ⟨d', hd', hne, -, hrid, hch⟩, r, hr, rfl⟩, -⟩ := h
    exact ⟨d', r, hd', hch.trans hchannel, hne, by rw [hrid]; exact hr, rfl⟩
  refine Keeps.ite (fun _ => hdrop (fun s h => h.1.1) (active_delivered _ _)) fun _ => ?_
  refine Keeps.ite (fun _ => hdrop (fun s h => h.1.1) (active_fail _)) fun _ => ?_
  refine Keeps.ite (fun _ => hdrop (fun s h => h.1.1) (active_fail _)) fun _ => ?_
  refine Keeps.bind (serves_sendViaSmtp (hkept.and (lasts_addressed k id toEmail))
    fun s h => h.2) fun answer => hdrop (fun s h => h.1) (active_settle answer)

theorem serves_applyDelivery {d : NotificationDelivery} {n : Notification}
    {r : NotificationRecipient} (hP : Lasts k P) :
    Serves k (fun s => (P s ∧ UnderWay id d s ∧ IsFor d r.userId s) ∧ mails k id s.log = 0)
      (applyDelivery settings k id d.channel n r) fun _ s => P s ∧ UnderWay id d s := by
  have hkept : Lasts k fun s => P s ∧ UnderWay id d s := hP.and (lasts_underWay k id d)
  unfold applyDelivery
  split
  next =>
    refine Keeps.conseq (serves_updateDelivery ⟨fun _ => rfl, fun _ => rfl, fun _ => rfl,
      fun _ _ => by simp, fun _ h => h⟩ hkept fun s hs => hs.2.toDeliver)
      (fun s _ h => ⟨h.1.1, h.1.2.1⟩) fun _ _ _ h => h
  next hchannel =>
    exact Keeps.conseq (serves_applyEmail hP hchannel) (fun s _ h => h)
      fun _ s _ h => ⟨h.1, h.2.1⟩
  next =>
    unfold applyPushDelivery
    refine Keeps.bind (Keeps.conseq (serves_look hkept.stable)
      (fun s _ h => ⟨h.1.1, h.1.2.1⟩) fun _ _ _ h => h) fun subscribed => ?_
    exact Keeps.ite
      (fun _ => serves_updateDelivery (active_delivered _ _) hkept fun s hs => hs.2.toDeliver)
      fun _ => serves_updateDelivery (active_fail _) hkept fun s hs => hs.2.toDeliver

theorem serves_promoteRecipient {recipientId : Nat} (hP : Lasts k P) :
    Serves k P (promoteRecipient id recipientId) fun _ => P := by
  unfold promoteRecipient
  refine Keeps.bind (serves_look hP.stable) fun d => ?_
  refine Keeps.bind (serves_look hP.stable) fun r => ?_
  refine Keeps.ite (fun _ => ?_) fun _ => Keeps.pure fun _ _ h => h
  exact serves_quiet hP fun s _ hok _ => updateRecipient_quiet hok fun _ => ⟨rfl, rfl⟩

/-- The delivery `d` as it was read. -/
def WasRead (id : Nat) (found : Option NotificationDelivery) (s : NotificationDb) : Prop :=
  ∃ d, found = some d ∧ ∃ d', s.deliveries.lookup id = some d' ∧ d.Becomes d'

theorem lasts_wasRead (k id : Nat) (found : Option NotificationDelivery) :
    Lasts k (WasRead id found) :=
  lasts_of_evolves fun s s' hev ⟨d, hfound, d', hd', hbec⟩ => by
    obtain ⟨d'', hd'', hbec'⟩ := hev.deliveries id d' hd'
    exact ⟨d, hfound, d'', hd'', hbec.trans hbec'⟩

/-- `try_deliver` sends at most one mail, and leaves an attempt on what is not skipped. -/
theorem serves_tryDeliver (hP : Lasts k P) :
    Serves k (fun s => (P s ∧ ∃ d, s.deliveries.lookup id = some d) ∧ mails k id s.log = 0)
      (tryDeliver settings k id) fun _ s => P s ∧ Attempted id s := by
  unfold tryDeliver
  refine Keeps.bind (S := fun found s => (P s ∧ WasRead id found s) ∧ mails k id s.log = 0)
    (serves_read (fun found => Stable.and (Lasts.stable (hP.and (lasts_wasRead k id found)))
      (stable_mails k id 0)) fun s _ h => ⟨⟨h.1.1, ?_⟩, h.2⟩) fun found => ?_
  · obtain ⟨⟨-, d, hd⟩, -⟩ := h
    exact ⟨d, hd, d, hd, .refl d⟩
  cases found with
  | none => exact Keeps.pure fun s _ ⟨⟨_, d, hd, _⟩, _⟩ => by cases hd
  | some d =>
      refine Keeps.ite (fun hskipped => Keeps.pure fun s _ ⟨⟨hs, d₀, hd₀, d', hd', hbec⟩, _⟩ => ?_)
        fun hne => ?_
      · obtain rfl := Option.some.inj hd₀
        exact ⟨hs, d', hd', fun hne => absurd (hbec.skipped.mpr hskipped) hne⟩
      have hkept : Lasts k fun s => P s ∧ UnderWay id d s := hP.and (lasts_underWay k id d)
      -- the attempt is counted
      refine Keeps.bind (S := fun _ s => (P s ∧ UnderWay id d s) ∧ mails k id s.log = 0)
        (Keeps.write (Stable.and (Lasts.stable hkept) (stable_mails k id 0))
          fun s hok ⟨⟨hs, d₀, hd₀, d', hd', hbec⟩, hmails⟩ => ?_) fun _ => ?_
      · obtain rfl := Option.some.inj hd₀
        have hne' : d'.status ≠ .skipped := fun h => hne (hbec.skipped.mp h)
        obtain ⟨hok', hquiet⟩ := updateDelivery_quiet hok id
          (f := ({ · with attemptCount := d.attemptCount + 1 })) fun e he => by
            obtain rfl := Option.some.inj (hd'.symm.trans he)
            exact ⟨rfl, rfl, rfl, .rfl, fun h => absurd h hne', fun _ => Nat.succ_pos _⟩
        refine ⟨hok', hquiet.guarantee k, ⟨hP s _ hok (hquiet.rowsKept k) hs, ?_⟩,
          (hquiet.mails k id).trans hmails⟩
        exact ⟨{ d' with attemptCount := d.attemptCount + 1 }, by simp [updateDelivery, hd'], hne',
          Nat.succ_pos _, hbec.recipientId, hbec.channel⟩
      refine Keeps.bind (serves_look (Stable.and (Lasts.stable hkept) (stable_mails k id 0)))
        fun n => ?_
      refine Keeps.bind (S := fun r s => ((P s ∧ UnderWay id d s) ∧ ∀ r₀, r = some r₀ →
        IsFor d r₀.userId s) ∧ mails k id s.log = 0) (serves_read (fun r => ?_) fun s _ h =>
          ⟨⟨h.1, fun r₀ hr₀ => ⟨r₀, hr₀, rfl⟩⟩, h.2⟩) fun r => ?_
      · refine Stable.and (Lasts.stable (hkept.and ?_)) (stable_mails k id 0)
        exact fun s s' hok hkept h r₀ hr₀ => lasts_isFor k d r₀.userId s s' hok hkept (h r₀ hr₀)
      refine Keeps.bind (S := fun _ s => P s ∧ UnderWay id d s) ?_ fun _ =>
        Keeps.conseq (serves_look (Lasts.stable hkept)) (fun _ _ h => h)
          fun _ s _ ⟨hs, d', hd', _, hpos, _⟩ => ⟨hs, d', hd', fun _ => hpos⟩
      unfold deliverCounted
      split
      next n r =>
        refine Keeps.bind (Keeps.conseq (serves_applyDelivery hP) (fun s _ h => ?_)
          fun _ _ _ h => h) fun _ => serves_promoteRecipient hkept
        exact ⟨⟨h.1.1.1, h.1.1.2, h.1.2 r rfl⟩, h.2⟩
      next =>
        exact Keeps.conseq (serves_updateDelivery (active_fail _) hkept fun s hs =>
          hs.2.toDeliver) (fun s _ h => h.1.1) fun _ _ _ h => h

end Attempts

/-! ## Creating -/

/-- What every step keeps, this request's own included. -/
abbrev Persists (P : NotificationDb → Prop) : Prop := ∀ s s', Evolves s s' → P s → P s'

theorem Persists.lasts {P : NotificationDb → Prop} (h : Persists P) (k : Nat) : Lasts k P :=
  lasts_of_evolves h

theorem Persists.and {P P' : NotificationDb → Prop} (h : Persists P) (h' : Persists P') :
    Persists fun s => P s ∧ P' s := fun s s' hev hs => ⟨h s s' hev hs.1, h' s s' hev hs.2⟩

/-- The notification is there, with its type. -/
def Notified (notificationId : Nat) (notificationType : String) (s : NotificationDb) : Prop :=
  ∃ n, s.notifications.lookup notificationId = some n ∧ n.type = notificationType

theorem persists_notified (notificationId : Nat) (notificationType : String) :
    Persists (Notified notificationId notificationType) := fun s s' hev ⟨n, hn, htype⟩ => by
  obtain ⟨n', hn', htype'⟩ := hev.notifications _ n hn
  exact ⟨n', hn', htype'.trans htype⟩

/-- The user's recipient row. -/
def Received (notificationId userId recipientId : Nat) (s : NotificationDb) : Prop :=
  ∃ r, s.recipients.lookup recipientId = some r ∧ r.notificationId = notificationId ∧
    r.userId = userId

theorem persists_received (notificationId userId recipientId : Nat) :
    Persists (Received notificationId userId recipientId) :=
  fun s s' hev ⟨r, hr, hnid, huser⟩ => by
    obtain ⟨r', hr', hnid', huser'⟩ := hev.recipients _ r hr
    exact ⟨r', hr', hnid'.trans hnid, huser'.trans huser⟩

/-- The delivery of one channel: attempted if the channel was enabled, else skipped. -/
def ChannelServed (recipientId : Nat) (enabled : List DeliveryChannel) (channel : DeliveryChannel)
    (s : NotificationDb) : Prop :=
  ∃ id d, s.deliveries.lookup id = some d ∧ d.notificationRecipientId = recipientId ∧
    d.channel = channel ∧ (channel ∈ enabled → 0 < d.attemptCount) ∧
    (channel ∉ enabled → d.status = .skipped)

theorem persists_channelServed (recipientId : Nat) (enabled : List DeliveryChannel)
    (channel : DeliveryChannel) : Persists (ChannelServed recipientId enabled channel) :=
  fun s s' hev ⟨id, d, hd, hrid, hchannel, hpos, hskipped⟩ => by
    obtain ⟨d', hd', hbec⟩ := hev.deliveries id d hd
    exact ⟨id, d', hd', hbec.recipientId.trans hrid, hbec.channel.trans hchannel,
      fun h => hbec.attempted (hpos h), fun h => hbec.skipped.mpr (hskipped h)⟩

/-- A user has a recipient row with a delivery for each channel. -/
def UserServed (notificationId userId : Nat) (s : NotificationDb) : Prop :=
  ∃ recipientId enabled, Received notificationId userId recipientId s ∧
    s.Resolved recipientId enabled ∧ ∀ channel, ChannelServed recipientId enabled channel s

theorem persists_userServed (notificationId userId : Nat) :
    Persists (UserServed notificationId userId) :=
  fun s s' hev ⟨recipientId, enabled, hreceived, hresolved, hserved⟩ =>
    ⟨recipientId, enabled, persists_received _ _ _ s s' hev hreceived, hev.resolved hresolved,
      fun channel => persists_channelServed _ _ channel s s' hev (hserved channel)⟩

/-- The deliveries of a recipient are for these channels. -/
def OnlyFor (k recipientId : Nat) (channels : List DeliveryChannel) (s : NotificationDb) : Prop :=
  s.Owns k recipientId ∧ ∀ id d, s.deliveries.lookup id = some d →
    d.notificationRecipientId = recipientId → d.channel ∈ channels

/-- The others add no delivery to a recipient of this request. -/
theorem lasts_onlyFor (k recipientId : Nat) (channels : List DeliveryChannel) :
    Lasts k (OnlyFor k recipientId channels) := fun s s' _ hkept ⟨howns, honly⟩ => by
  refine ⟨hkept.toEvolves.mem_log howns, fun id d' hd' hrid => ?_⟩
  cases hd : s.deliveries.lookup id with
  | none => exact absurd (hrid ▸ howns) (hkept.theirs id d' hd' hd)
  | some d =>
      obtain ⟨d'', hd'', hbec⟩ := hkept.toEvolves.deliveries id d hd
      obtain rfl := Option.some.inj (hd'.symm.trans hd'')
      rw [hbec.channel]
      exact honly id d hd (hbec.recipientId.symm.trans hrid)

theorem recipientId_none {s : NotificationDb} {notificationId userId : Nat}
    (h : s.recipientId notificationId userId = none) {id : Nat} {r : NotificationRecipient}
    (hr : s.recipients.lookup id = some r) (hnid : r.notificationId = notificationId) :
    r.userId ≠ userId := by
  intro huser
  have hkey : id ∈ s.recipients.keys := AList.mem_keys.mp (AList.lookup_isSome.mp (by simp [hr]))
  have := List.find?_eq_none.mp h id hkey
  simp [hr, hnid, huser] at this

/-- No mail is about a delivery that does not exist. -/
theorem Ok.mails_none {s : NotificationDb} (hok : Ok s) {id : Nat}
    (hnone : s.deliveries.lookup id = none) (k : Nat) : mails k id s.log = 0 := by
  refine List.countP_eq_zero.mpr fun e he hmailed => ?_
  cases e with
  | mailed k' id' message answer =>
      simp only [Bool.and_eq_true, decide_eq_true_eq] at hmailed
      obtain ⟨d, r, hd, -⟩ := hok.mailed k' id' message answer he
      rw [hmailed.2, hnone] at hd
      cases hd
  | _ => cases hmailed

section Creating

variable {settings : SmtpSettings} {k : Nat} {P : NotificationDb → Prop}

theorem createRecipient_ok {s : NotificationDb} (hok : Ok s) {notificationId userId : Nat}
    (hnone : s.recipientId notificationId userId = none) :
    let s' := { s with
      recipients := s.recipients.insert (Table.freshKey s.recipients)
        { notificationId, userId, status := .pending }
      log := .recipient k (Table.freshKey s.recipients) :: s.log }
    Ok s' ∧ Quiet s s' := by
  intro s'
  have hlookup : ∀ id r, s'.recipients.lookup id = some r →
      (id = Table.freshKey s.recipients ∧
        r = { notificationId, userId, status := .pending }) ∨ s.recipients.lookup id = some r := by
    intro id r hr
    by_cases hid : id = Table.freshKey s.recipients
    · subst hid
      exact .inl ⟨rfl, by simpa [s'] using hr.symm⟩
    · exact .inr (by simpa [s', hid] using hr)
  have hev : Evolves s s' :=
    ⟨rfl, ⟨[_], rfl⟩, fun _ n h => ⟨n, h, rfl⟩,
      fun id r h => ⟨r, by simpa [s', Table.ne_freshKey h] using h, rfl, rfl⟩,
      fun _ d h => ⟨d, h, .refl d⟩⟩
  have howns : ∀ j id, s'.Owns j id → (j = k ∧ id = Table.freshKey s.recipients) ∨ s.Owns j id :=
    fun j id h => (List.mem_cons.mp h).imp_left NotificationEntry.recipient.inj
  have hfresh : ∀ j, ¬ s.Owns j (Table.freshKey s.recipients) := fun j h => by
    obtain ⟨r, hr⟩ := hok.owned j _ h
    rw [Table.lookup_freshKey] at hr
    cases hr
  refine ⟨?_, hev, fun _ d h => ⟨d, h⟩, fun _ _ => ?_⟩
  · constructor
    · intro k' j id hk hj
      rcases howns k' id hk with ⟨rfl, rfl⟩ | hk₀
      · rcases howns j _ hj with ⟨rfl, -⟩ | hj₀
        · rfl
        · exact absurd hj₀ (hfresh j)
      · rcases howns j id hj with ⟨rfl, rfl⟩ | hj₀
        · exact absurd hk₀ (hfresh k')
        · exact hok.one_owner k' j id hk₀ hj₀
    · intro j id h
      rcases howns j id h with ⟨rfl, rfl⟩ | h
      · exact ⟨_, by simp [s']; rfl⟩
      · obtain ⟨r, hr⟩ := hok.owned j id h
        exact (hev.recipients id r hr).imp fun _ h => h.1
    · intro id id' r r' hr hr' hnid huser
      rcases hlookup id r hr with ⟨rfl, rfl⟩ | hr
      · rcases hlookup id' r' hr' with ⟨rfl, -⟩ | hr'
        · rfl
        · exact absurd huser (recipientId_none hnone hr' hnid)
      · rcases hlookup id' r' hr' with ⟨rfl, rfl⟩ | hr'
        · exact absurd huser.symm (recipientId_none hnone hr hnid.symm)
        · exact hok.one_recipient id id' r r' hr hr' hnid huser
    · exact hok.one_delivery
    · intro id d hd
      obtain ⟨r, hr⟩ := hok.of_recipient id d hd
      exact (hev.recipients _ r hr).imp fun _ h => h.1
    · exact hok.skipped
    · intro id d hd hne
      obtain ⟨enabled, hresolved, hmem⟩ := hok.permitted id d hd hne
      exact ⟨enabled, hev.resolved hresolved, hmem⟩
    · exact hok.preferences
    · intro j id message answer hmem
      exact hev.addressed (hok.mailed j id message answer
        ((List.mem_cons.mp hmem).resolve_left NotificationEntry.noConfusion))
    · intro j id
      show mails j id (_ :: s.log) ≤ 1
      rw [mails, List.countP_cons_of_neg Bool.false_ne_true]
      exact hok.mails_le j id
  · exact List.countP_cons_of_neg Bool.false_ne_true

/-- The new recipient belongs to this request, and has no delivery. -/
theorem serves_createRecipient {notificationId userId : Nat} (hP : Persists P) :
    Serves k P (createRecipient k notificationId userId) fun created s => P s ∧
      ∀ recipientId, created = some recipientId →
        Received notificationId userId recipientId s ∧ OnlyFor k recipientId [] s := by
  refine Keeps.action (fun created => ?_) fun s i hok hs => ?_
  · refine Stable.and (Lasts.stable (hP.lasts k)) (Lasts.stable ?_)
    intro s s' hok hkept h recipientId hcreated
    exact ⟨persists_received _ _ _ s s' hkept.toEvolves (h recipientId hcreated).1,
      lasts_onlyFor k recipientId [] s s' hok hkept (h recipientId hcreated).2⟩
  · split
    next hfails => exact ⟨hok, (Quiet.refl s).guarantee k, hs, fun _ h => by cases h⟩
    next hgoes =>
      simp only [Bool.or_eq_true, not_or, Bool.not_eq_true, Option.isSome_eq_false_iff,
        Option.isNone_iff_eq_none] at hgoes
      obtain ⟨hok', hquiet⟩ := createRecipient_ok (k := k) hok hgoes.2
      refine ⟨hok', hquiet.guarantee k, hP s _ hquiet.toEvolves hs, fun recipientId h => ?_⟩
      obtain rfl := Option.some.inj h
      refine ⟨⟨_, by simp; rfl, rfl, rfl⟩, List.mem_cons_self, fun id d hd hrid => ?_⟩
      obtain ⟨r, hr⟩ := hok.of_recipient id d hd
      rw [hrid, Table.lookup_freshKey] at hr
      cases hr

/-- The channels are resolved as the stored row says. -/
theorem serves_resolveEnabledChannels {notificationId recipientId userId : Nat}
    {notificationType : String} (hP : Lasts k P)
    (hrow : ∀ s, P s → Received notificationId userId recipientId s ∧
      Notified notificationId notificationType s) :
    Serves k P (resolveEnabledChannels recipientId userId notificationType) fun enabled s =>
      P s ∧ s.Resolved recipientId enabled := by
  refine Keeps.action (fun enabled => ?_) fun s i hok hs => ?_
  · exact Stable.and (Lasts.stable hP) (Lasts.stable (lasts_of_evolves fun _ _ hev h =>
      hev.resolved h))
  · have hev : Evolves s { s with
        log := .resolved recipientId userId notificationType
          (enabledChannels (s.preferences.lookup (userId, notificationType))) :: s.log } :=
      ⟨rfl, ⟨[_], rfl⟩, fun _ n h => ⟨n, h, rfl⟩, fun _ r h => ⟨r, h, rfl, rfl⟩,
        fun _ d h => ⟨d, h, .refl d⟩⟩
    have hquiet : Quiet s _ := ⟨hev, fun _ d h => ⟨d, h⟩, fun _ _ =>
      List.countP_cons_of_neg Bool.false_ne_true⟩
    refine ⟨hok.unchanging ⟨hev, fun _ r h => ⟨r, h, rfl, rfl⟩, fun _ d h => ⟨d, h, .refl d⟩,
      fun j id h => ?_, hok.preferences⟩ (fun j id m a h => ?_) fun j id => ?_,
      hquiet.guarantee k, hP s _ hok (hquiet.rowsKept k) hs, ?_⟩
    · exact (List.mem_cons.mp h).resolve_left NotificationEntry.noConfusion
    · exact hev.addressed (hok.mailed j id m a
        ((List.mem_cons.mp h).resolve_left NotificationEntry.noConfusion))
    · exact (hquiet.mails j id).trans_le (hok.mails_le j id)
    · obtain ⟨⟨r, hr, hnid, rfl⟩, n, hn, rfl⟩ := hrow s hs
      exact ⟨r, n, [], s.log, hr, hnid ▸ hn, rfl, by rw [hok.preferences]⟩

/-- A delivery that this request has just made. -/
def Made (recipientId : Nat) (enabled : List DeliveryChannel) (channel : DeliveryChannel) (id : Nat)
    (s : NotificationDb) : Prop :=
  ∃ d, s.deliveries.lookup id = some d ∧ d.notificationRecipientId = recipientId ∧
    d.channel = channel ∧ (channel ∈ enabled → d.status ≠ .skipped) ∧
    (channel ∉ enabled → d.status = .skipped)

theorem persists_made (recipientId : Nat) (enabled : List DeliveryChannel)
    (channel : DeliveryChannel) (id : Nat) : Persists (Made recipientId enabled channel id) :=
  fun s s' hev ⟨d, hd, hrid, hchannel, hne, hskipped⟩ => by
    obtain ⟨d', hd', hbec⟩ := hev.deliveries id d hd
    exact ⟨d', hd', hbec.recipientId.trans hrid, hbec.channel.trans hchannel,
      fun h hs => hne h (hbec.skipped.mp hs), fun h => hbec.skipped.mpr (hskipped h)⟩

/-- What is left once the delivery of the next channel is there. -/
def Served (recipientId : Nat) (enabled done : List DeliveryChannel) (s : NotificationDb) : Prop :=
  s.Resolved recipientId enabled ∧ ∀ channel ∈ done, ChannelServed recipientId enabled channel s

theorem persists_served (recipientId : Nat) (enabled done : List DeliveryChannel) :
    Persists (Served recipientId enabled done) := fun s s' hev ⟨hresolved, hserved⟩ =>
  ⟨hev.resolved hresolved, fun channel hmem =>
    persists_channelServed _ _ channel s s' hev (hserved channel hmem)⟩

theorem createDelivery_ok {s : NotificationDb} (hok : Ok s) (row : NotificationDelivery)
    {enabled done : List DeliveryChannel}
    (honly : OnlyFor k row.notificationRecipientId done s)
    (hresolved : s.Resolved row.notificationRecipientId enabled) (hnew : row.channel ∉ done)
    (hattempts : row.attemptCount = 0)
    (henabled : row.status ≠ .skipped → row.channel ∈ enabled) :
    let s' := { s with deliveries := s.deliveries.insert (Table.freshKey s.deliveries) row }
    Ok s' ∧ Guarantee k s s' ∧
      OnlyFor k row.notificationRecipientId (done ++ [row.channel]) s' := by
  intro s'
  have hlookup : ∀ id d, s'.deliveries.lookup id = some d →
      (id = Table.freshKey s.deliveries ∧ d = row) ∨ s.deliveries.lookup id = some d := by
    intro id d hd
    by_cases hid : id = Table.freshKey s.deliveries
    · subst hid
      exact .inl ⟨rfl, by simpa [s'] using hd.symm⟩
    · exact .inr (by simpa [s', hid] using hd)
  have hev : Evolves s s' :=
    ⟨rfl, ⟨[], rfl⟩, fun _ n h => ⟨n, h, rfl⟩, fun _ r h => ⟨r, h, rfl, rfl⟩,
      fun id d h => ⟨d, by simpa [s', Table.ne_freshKey h] using h, .refl d⟩⟩
  refine ⟨?_, ⟨hev, fun id d hd hnone => ?_, fun _ _ _ => rfl⟩, honly.1, fun id d hd hrid => ?_⟩
  · constructor
    · exact hok.one_owner
    · exact hok.owned
    · exact hok.one_recipient
    · intro id id' d d' hd hd' hrid hchannel
      rcases hlookup id d hd with ⟨rfl, rfl⟩ | hd₀
      · rcases hlookup id' d' hd' with ⟨rfl, -⟩ | hd₁
        · rfl
        · exact absurd (hchannel ▸ honly.2 id' d' hd₁ hrid) hnew
      · rcases hlookup id' d' hd' with ⟨rfl, rfl⟩ | hd₁
        · exact absurd (hchannel ▸ honly.2 id d hd₀ hrid.symm) hnew
        · exact hok.one_delivery id id' d d' hd₀ hd₁ hrid hchannel
    · intro id d hd
      rcases hlookup id d hd with ⟨rfl, rfl⟩ | hd₀
      · exact hok.owned k _ honly.1
      · exact hok.of_recipient id d hd₀
    · intro id d hd hskipped
      rcases hlookup id d hd with ⟨rfl, rfl⟩ | hd₀
      · exact hattempts
      · exact hok.skipped id d hd₀ hskipped
    · intro id d hd hne
      rcases hlookup id d hd with ⟨rfl, rfl⟩ | hd₀
      · exact ⟨enabled, hev.resolved hresolved, henabled hne⟩
      · obtain ⟨enabled', hresolved', hmem⟩ := hok.permitted id d hd₀ hne
        exact ⟨enabled', hev.resolved hresolved', hmem⟩
    · exact hok.preferences
    · exact fun j id message answer hmem => hev.addressed (hok.mailed j id message answer hmem)
    · exact hok.mails_le
  · rcases hlookup id d hd with ⟨rfl, rfl⟩ | hd₀
    · exact honly.1
    · rw [hnone] at hd₀
      cases hd₀
  · rcases hlookup id d hd with ⟨rfl, rfl⟩ | hd₀
    · simp
    · exact List.mem_append_left _ (honly.2 id d hd₀ hrid)

/-- The delivery of the next channel. -/
theorem serves_createDelivery {notificationId recipientId : Nat}
    (enabled : List DeliveryChannel) {done : List DeliveryChannel} {channel : DeliveryChannel}
    {status : DeliveryStatus} (hP : Persists P) (hnew : channel ∉ done)
    (henabled : channel ∈ enabled → status ≠ .skipped)
    (hskipped : channel ∉ enabled → status = .skipped) :
    Serves k (fun s => P s ∧ OnlyFor k recipientId done s ∧ Served recipientId enabled done s)
      (createDelivery notificationId recipientId channel status) fun id s =>
        (P s ∧ OnlyFor k recipientId (done ++ [channel]) s ∧ Served recipientId enabled done s ∧
          Made recipientId enabled channel id s) ∧ mails k id s.log = 0 := by
  refine Keeps.action (fun id => ?_) fun s i hok ⟨hs, honly, hserved⟩ => ?_
  · exact Stable.and (Lasts.stable ((hP.lasts k).and ((lasts_onlyFor k _ _).and
      (((persists_served _ _ _).and (persists_made _ _ _ id)).lasts k)))) (stable_mails k id 0)
  · obtain ⟨hok', hguarantee, honly'⟩ := createDelivery_ok (k := k) hok
      { notificationId, notificationRecipientId := recipientId, channel, status }
      honly hserved.1 hnew rfl fun hne => by
        by_contra hmem
        exact hne (hskipped hmem)
    refine ⟨hok', hguarantee, ⟨hP s _ hguarantee.toEvolves hs, honly',
      persists_served _ _ _ s _ hguarantee.toEvolves hserved, ?_⟩,
      hok.mails_none (Table.lookup_freshKey _) k⟩
    exact ⟨_, by simp; rfl, rfl, rfl, henabled, hskipped⟩

theorem serves_dispatchChannel {notificationId recipientId : Nat}
    {enabled done : List DeliveryChannel} {channel : DeliveryChannel} (hP : Persists P)
    (hnew : channel ∉ done) :
    Serves k (fun s => P s ∧ OnlyFor k recipientId done s ∧ Served recipientId enabled done s)
      (dispatchChannel settings k notificationId recipientId enabled channel) fun go s =>
        if go then P s ∧ OnlyFor k recipientId (done ++ [channel]) s ∧
          Served recipientId enabled (done ++ [channel]) s else True := by
  -- an attempt, or a skipped row, serves the channel
  have hserved : ∀ {s : NotificationDb}, Served recipientId enabled done s →
      ChannelServed recipientId enabled channel s →
        Served recipientId enabled (done ++ [channel]) s := by
    intro s hserved hchannel
    refine ⟨hserved.1, fun channel' hmem => ?_⟩
    rcases List.mem_append.mp hmem with hmem | hmem
    · exact hserved.2 channel' hmem
    · exact List.mem_singleton.mp hmem ▸ hchannel
  unfold dispatchChannel
  refine Keeps.ite (fun hmem => ?_) fun hmem => ?_
  · refine Keeps.bind (serves_createDelivery enabled hP hnew
      (fun _ => by simp) fun h => absurd hmem h) fun id => ?_
    have hkept : Lasts k fun s => P s ∧ OnlyFor k recipientId (done ++ [channel]) s ∧
        Served recipientId enabled done s ∧ Made recipientId enabled channel id s :=
      (hP.lasts k).and ((lasts_onlyFor k _ _).and
        (((persists_served _ _ _).and (persists_made _ _ _ id)).lasts k))
    refine Keeps.bind (Keeps.conseq (serves_tryDeliver hkept) (fun s _ h => ?_) fun _ _ _ h => h)
      fun _ => Keeps.pure fun s _ ⟨⟨hs, honly, hdone, hmade⟩, d, hd, hpos⟩ => ?_
    · obtain ⟨d, hd, -⟩ := h.1.2.2.2
      exact ⟨⟨h.1, d, hd⟩, h.2⟩
    · obtain ⟨d', hd', hrid, hchannel, hne, -⟩ := hmade
      obtain rfl := Option.some.inj (hd.symm.trans hd')
      exact ⟨hs, honly, hserved hdone ⟨id, d, hd, hrid, hchannel, fun h => hpos (hne h),
        fun h => absurd hmem h⟩⟩
  · refine Keeps.bind (serves_createDelivery enabled hP hnew
      (fun h => absurd h hmem) fun _ => rfl) fun id => Keeps.pure fun s _ h => ?_
    obtain ⟨⟨hs, honly, hdone, d, hd, hrid, hchannel, -, hskipped⟩, -⟩ := h
    exact ⟨hs, honly, hserved hdone ⟨id, d, hd, hrid, hchannel, fun h => absurd h hmem, hskipped⟩⟩

/-- One user of a new notification. -/
theorem serves_dispatchForRecipient {notificationId userId : Nat} {notificationType : String}
    (hP : Persists P) (hnotified : ∀ s, P s → Notified notificationId notificationType s) :
    Serves k P (dispatchForRecipient settings k notificationId notificationType userId)
      fun go s => if go then P s ∧ UserServed notificationId userId s else True := by
  unfold dispatchForRecipient
  refine Keeps.bind (serves_createRecipient hP) fun created => ?_
  cases created with
  | none => exact Keeps.pure fun _ _ _ => trivial
  | some recipientId =>
      have hkept : Persists fun s => P s ∧ Received notificationId userId recipientId s :=
        hP.and (persists_received _ _ _)
      refine Keeps.bind (Keeps.conseq (serves_resolveEnabledChannels
        ((hkept.lasts k).and (lasts_onlyFor k recipientId [])) fun s h =>
          ⟨h.1.2, hnotified s h.1.1⟩) (fun s _ h => ⟨⟨h.1, (h.2 _ rfl).1⟩, (h.2 _ rfl).2⟩)
          fun _ _ _ h => h) fun enabled => ?_
      refine Keeps.conseq (Keeps.forEach (S := fun done s =>
        (P s ∧ Received notificationId userId recipientId s) ∧ OnlyFor k recipientId done s ∧
          Served recipientId enabled done s) (B := fun _ => True) fun done channel rest heq =>
            serves_dispatchChannel hkept ?_)
        (fun s _ h => ⟨h.1.1, h.1.2, h.2, fun _ hmem => absurd hmem List.not_mem_nil⟩)
        fun all s _ h => ?_
      · have hnodup : (done ++ channel :: rest).Nodup := heq ▸ (by decide : allChannels.Nodup)
        exact fun hmem => (List.nodup_append.mp hnodup).2.2 channel hmem channel
          List.mem_cons_self rfl
      · cases all with
        | false => trivial
        | true =>
            obtain ⟨⟨hs, hreceived⟩, -, hresolved, hserved⟩ := h
            refine ⟨hs, recipientId, enabled, hreceived, hresolved, fun channel => ?_⟩
            exact hserved channel (by cases channel <;> decide)

theorem serves_refreshNotificationStatus {notificationId : Nat} (hP : Lasts k P) :
    Serves k P (refreshNotificationStatus notificationId) fun _ => P := by
  unfold refreshNotificationStatus
  refine Keeps.bind (serves_look hP.stable) fun statuses => ?_
  refine Keeps.ite (fun _ => Keeps.pure fun _ _ h => h) fun _ => ?_
  refine Keeps.bind (serves_look hP.stable) fun n => ?_
  refine Keeps.ite (fun _ => ?_) fun _ => Keeps.pure fun _ _ h => h
  exact serves_quiet hP fun s _ hok _ => updateNotification_quiet hok fun _ => rfl

/-- The notification is there, and each of these users has been served. -/
def CreatedFor (notificationId : Nat) (notificationType : String) (userIds : List Nat)
    (s : NotificationDb) : Prop :=
  Notified notificationId notificationType s ∧
    ∀ userId ∈ userIds, UserServed notificationId userId s

theorem persists_createdFor (notificationId : Nat) (notificationType : String)
    (userIds : List Nat) : Persists (CreatedFor notificationId notificationType userIds) :=
  fun s s' hev ⟨hnotified, hsettled⟩ => ⟨persists_notified _ _ s s' hev hnotified,
    fun userId hmem => persists_userServed _ userId s s' hev (hsettled userId hmem)⟩

theorem serves_create {notificationType title body : String} {userIds : List Nat} :
    Serves k (fun _ => True)
      (createNotificationEvent settings k notificationType title body userIds) fun answer s =>
        ∀ notificationId, answer = .created notificationId →
          CreatedFor notificationId notificationType userIds s := by
  unfold createNotificationEvent
  refine Keeps.bind (S := fun notificationId => CreatedFor notificationId notificationType [])
    (Keeps.action (fun notificationId =>
      Lasts.stable ((persists_createdFor notificationId notificationType []).lasts k))
      fun s i hok _ => ?_) fun notificationId => ?_
  · have hev : Evolves s { s with
        notifications := s.notifications.insert (Table.freshKey s.notifications)
          { type := notificationType, title, body, status := .pending } } :=
      ⟨rfl, ⟨[], rfl⟩, fun id n h => ⟨n, by simpa [Table.ne_freshKey h] using h, rfl⟩,
        fun _ r h => ⟨r, h, rfl, rfl⟩, fun _ d h => ⟨d, h, .refl d⟩⟩
    obtain ⟨hok', hquiet⟩ := hok.unlogged hev rfl rfl (fun _ r h => ⟨r, h, rfl, rfl⟩)
      fun _ d h => ⟨d, h, .refl d⟩
    exact ⟨hok', hquiet.guarantee k, ⟨_, by simp; rfl, rfl⟩, fun _ h => absurd h List.not_mem_nil⟩
  refine Keeps.bind (Keeps.forEach
    (S := fun done => CreatedFor notificationId notificationType done) (B := fun _ => True)
    fun done userId rest _ => ?_) fun all => ?_
  · refine Keeps.conseq (serves_dispatchForRecipient (persists_createdFor _ _ done)
      fun s h => h.1) (fun _ _ h => h) fun go s _ h => ?_
    cases go with
    | false => trivial
    | true =>
        refine ⟨h.1.1, fun userId' hmem => ?_⟩
        rcases List.mem_append.mp hmem with hmem | hmem
        · exact h.1.2 userId' hmem
        · exact List.mem_singleton.mp hmem ▸ h.2
  · cases all with
    | false => exact Keeps.pure fun _ _ _ _ h => by cases h
    | true =>
        refine Keeps.bind (serves_refreshNotificationStatus
          ((persists_createdFor notificationId notificationType userIds).lasts k)) fun _ =>
          Keeps.pure fun s _ h notificationId' heq => ?_
        obtain rfl := NotificationAnswer.created.inj heq
        exact h

end Creating

/-! ## The other requests -/

section Others

variable {settings : SmtpSettings} {k : Nat}

theorem lasts_true (k : Nat) : Lasts k fun _ => True := fun _ _ _ _ _ => trivial

theorem serves_retry {id : Nat} :
    Serves k (fun s => ∀ id, mails k id s.log = 0) (retryDelivery settings k id)
      fun _ _ => True := by
  unfold retryDelivery
  refine Keeps.bind (S := fun found s => (∀ d, found = some d → WasRead id found s) ∧
    mails k id s.log = 0) (serves_read (fun found => Stable.and (Lasts.stable ?_)
      (stable_mails k id 0)) fun s _ h => ⟨fun d hd => ⟨d, hd, d, hd, .refl d⟩, h id⟩)
    fun found => ?_
  · exact fun s s' hok hkept h d hd => lasts_wasRead k id found s s' hok hkept (h d hd)
  cases found with
  | none => exact Keeps.pure fun _ _ _ => trivial
  | some d =>
      refine Keeps.ite (fun _ => Keeps.pure fun _ _ _ => trivial) fun hfailed => ?_
      refine Keeps.bind (S := fun _ s => ToDeliver id s ∧ mails k id s.log = 0)
        (Keeps.write (Stable.and (Lasts.stable (lasts_toDeliver k id)) (stable_mails k id 0))
          fun s hok ⟨hread, hmails⟩ => ?_) fun _ => ?_
      · obtain ⟨d₀, hd₀, d', hd', hbec⟩ := hread d rfl
        obtain rfl := Option.some.inj hd₀
        have hne' : d'.status ≠ .skipped := fun h =>
          absurd ((not_not.mp hfailed).symm.trans (hbec.skipped.mp h)) (by simp)
        obtain ⟨hok', hquiet⟩ := updateDelivery_quiet hok id
          (f := ({ · with status := .queued, lastErrorMessage := none })) fun e he => by
            obtain rfl := Option.some.inj (hd'.symm.trans he)
            exact ⟨rfl, rfl, rfl, ⟨fun h => absurd h (by simp), fun h => absurd h hne'⟩,
              fun h => absurd h hne', fun h => h⟩
        exact ⟨hok', hquiet.guarantee k, ⟨_, by simp [updateDelivery, hd']; rfl, by simp⟩,
          (hquiet.mails k id).trans hmails⟩
      refine Keeps.bind (Keeps.conseq (serves_tryDeliver (lasts_true k)) (fun s _ h => ?_)
        fun _ _ _ h => h) fun result => ?_
      · obtain ⟨⟨d', hd', -⟩, hmails⟩ := h
        exact ⟨⟨trivial, d', hd'⟩, hmails⟩
      · cases result with
        | none => exact Keeps.pure fun _ _ _ => trivial
        | some d => exact Keeps.pure fun _ _ _ => trivial

/-- A mark is on a row. -/
theorem serves_mark {mark : Nat → NotificationProcess Unit}
    (hmark : ∀ id, Serves k (fun _ => True) (mark id) fun _ _ => True)
    {userId notificationId : Nat} :
    Serves k (fun _ => True) (markForUser mark userId notificationId) fun _ _ => True := by
  unfold markForUser
  refine Keeps.bind (serves_look (lasts_true k).stable) fun found => ?_
  cases found with
  | none => exact Keeps.pure fun _ _ _ => trivial
  | some recipientId =>
      refine Keeps.bind (serves_look (lasts_true k).stable) fun n => ?_
      refine Keeps.ite (fun _ => Keeps.pure fun _ _ _ => trivial) fun _ => ?_
      exact Keeps.bind (hmark recipientId) fun _ => Keeps.pure fun _ _ _ => trivial

theorem serves_markRecipientRead (id : Nat) :
    Serves k (fun _ => True) (markRecipientRead id) fun _ _ => True :=
  serves_quiet (lasts_true k) fun _ _ hok _ => updateRecipient_quiet hok fun _ => ⟨rfl, rfl⟩

theorem serves_markRecipientDismissed (id : Nat) :
    Serves k (fun _ => True) (markRecipientDismissed id) fun _ _ => True :=
  serves_quiet (lasts_true k) fun _ _ hok _ => updateRecipient_quiet hok fun _ => ⟨rfl, rfl⟩

theorem serves_markReadBulk {userId : Nat} {notificationIds : List Nat} :
    Serves k (fun _ => True) (markReadBulk userId notificationIds) fun _ _ => True := by
  unfold markReadBulk
  refine Keeps.bind (serves_look (lasts_true k).stable) fun rows => ?_
  refine Keeps.bind (Keeps.forEach (S := fun _ _ => True) (B := fun _ => True)
    fun _ id _ _ => ?_) fun _ => Keeps.pure fun _ _ _ => trivial
  exact Keeps.bind (serves_markRecipientRead id) fun _ => Keeps.pure fun _ _ _ => trivial

/-- A commit of a preference row is the last in the log. -/
theorem storePreference_quiet {s : NotificationDb} (hok : Ok s) (userId : Nat)
    (notificationType : String) (row : ChannelSwitches) :
    Ok (s.storePreference userId notificationType row) ∧
      Quiet s (s.storePreference userId notificationType row) := by
  have hev : Evolves s (s.storePreference userId notificationType row) :=
    ⟨rfl, ⟨[_], rfl⟩, fun _ n h => ⟨n, h, rfl⟩, fun _ r h => ⟨r, h, rfl, rfl⟩,
      fun _ d h => ⟨d, h, .refl d⟩⟩
  have hmails : ∀ j id, mails j id (s.storePreference userId notificationType row).log =
      mails j id s.log :=
    fun _ _ => List.countP_cons_of_neg Bool.false_ne_true
  refine ⟨hok.unchanging ⟨hev, fun _ r h => ⟨r, h, rfl, rfl⟩, fun _ d h => ⟨d, h, .refl d⟩,
    fun j id h => ?_, fun u t => ?_⟩ (fun j id m a h => ?_) fun j id => ?_, hev,
    fun _ d h => ⟨d, h⟩, hmails⟩
  · exact (List.mem_cons.mp h).resolve_left NotificationEntry.noConfusion
  · have hother := hok.preferences u t
    by_cases hsame : u = userId ∧ t = notificationType
    · simp [storePreference, storedSwitches, hsame]
    · have hne : ¬ (userId = u ∧ notificationType = t) := fun h => hsame ⟨h.1.symm, h.2.symm⟩
      simp only [storePreference, Table.lookup_insert_eq, storedSwitches, Prod.mk.injEq,
        if_neg hsame, if_neg hne]
      exact hother
  · exact hev.addressed (hok.mailed j id m a
      ((List.mem_cons.mp h).resolve_left NotificationEntry.noConfusion))
  · exact (hmails j id).trans_le (hok.mails_le j id)

theorem updatePreference_quiet {s : NotificationDb} (hok : Ok s) (userId : Nat)
    (notificationType : String) (f : ChannelSwitches → ChannelSwitches) :
    Ok (s.updatePreference userId notificationType f) ∧
      Quiet s (s.updatePreference userId notificationType f) := by
  unfold updatePreference
  split
  · exact storePreference_quiet hok userId notificationType _
  · exact ⟨hok, .refl s⟩

theorem serves_putPreferences {userId : Nat} {items : List (String × ChannelSwitches)} :
    Serves k (fun _ => True) (putPreferences userId items) fun _ _ => True := by
  unfold putPreferences
  refine Keeps.bind (Keeps.forEach (S := fun _ _ => True) (B := fun _ => True)
    fun _ item _ _ => ?_) fun _ => Keeps.pure fun _ _ _ => trivial
  unfold upsertPreference
  refine Keeps.conseq (Q := fun _ _ => True) (Keeps.bind (serves_look (lasts_true k).stable)
    fun existing => ?_) (fun _ _ h => h) fun go _ _ _ => by cases go <;> trivial
  cases existing with
  | none =>
      refine serves_quiet (lasts_true k) fun s _ hok _ => ?_
      split
      · exact ⟨hok, .refl s⟩
      · exact storePreference_quiet hok userId item.1 item.2
  | some existing =>
      exact Keeps.bind (serves_quiet (lasts_true k) fun s _ hok _ =>
        updatePreference_quiet hok userId item.1 _) fun _ => Keeps.pure fun _ _ _ => trivial

/-- The subscriptions are a table of their own. -/
theorem subscriptions_quiet {s : NotificationDb} (hok : Ok s)
    (subscriptions : Table Nat PushSubscription) :
    Ok { s with subscriptions } ∧ Quiet s { s with subscriptions } :=
  hok.unlogged ⟨rfl, ⟨[], rfl⟩, fun _ n h => ⟨n, h, rfl⟩, fun _ r h => ⟨r, h, rfl, rfl⟩,
    fun _ d h => ⟨d, h, .refl d⟩⟩ rfl rfl (fun _ r h => ⟨r, h, rfl, rfl⟩)
    fun _ d h => ⟨d, h, .refl d⟩

theorem serves_registerSubscription {userId : Nat} :
    Serves k (fun _ => True) (registerSubscription userId) fun _ _ => True := by
  unfold registerSubscription
  exact Keeps.bind (serves_quiet (lasts_true k) fun s _ hok _ => subscriptions_quiet hok _)
    fun _ => Keeps.pure fun _ _ _ => trivial

theorem serves_revokeSubscription {userId subscriptionId : Nat} :
    Serves k (fun _ => True) (revokeSubscription userId subscriptionId) fun _ _ => True := by
  unfold revokeSubscription
  refine Keeps.bind (serves_look (lasts_true k).stable) fun found => ?_
  refine Keeps.ite (fun _ => ?_) fun _ => Keeps.pure fun _ _ _ => trivial
  refine Keeps.bind (serves_quiet (lasts_true k) fun s _ hok _ => ?_) fun _ =>
    Keeps.pure fun _ _ _ => trivial
  dsimp only
  split
  · exact subscriptions_quiet hok _
  · exact ⟨hok, .refl s⟩

end Others

/-! ## Whole runs -/

theorem ok_empty (users : List (Nat × String)) : Ok { users := users } := by
  have hnil : ∀ k id, ¬ Owns { users := users } k id := fun _ _ h => absurd h List.not_mem_nil
  constructor
  · exact fun k j id h => absurd h (hnil k id)
  · exact fun k id h => absurd h (hnil k id)
  · exact fun id id' r r' h => by cases h
  · exact fun id id' d d' h => by cases h
  · exact fun id d h => by cases h
  · exact fun id d h => by cases h
  · exact fun id d h => by cases h
  · exact fun userId t => rfl
  · exact fun k id m a h => absurd h List.not_mem_nil
  · exact fun k id => Nat.zero_le 1

/-- What a request promises when it has ended. -/
def Promised (request : NotificationRequest) (answer : NotificationAnswer)
    (s : NotificationDb) : Prop :=
  ∀ notificationType title body userIds notificationId,
    request = .create notificationType title body userIds → answer = .created notificationId →
      CreatedFor notificationId notificationType userIds s

theorem serves_request (settings : SmtpSettings) (k : Nat) (request : NotificationRequest) :
    Serves k (fun s => ∀ id, mails k id s.log = 0) (serveNotification settings k request)
      (Promised request) := by
  have hother : ∀ {m : NotificationProcess NotificationAnswer},
      (∀ t title body uids, request ≠ .create t title body uids) →
      Serves k (fun _ => True) m (fun _ _ => True) →
        Serves k (fun s => ∀ id, mails k id s.log = 0) m (Promised request) :=
    fun hne h => Keeps.conseq h (fun _ _ _ => trivial) fun _ _ _ _ t title body uids _ heq =>
      absurd heq (hne t title body uids)
  cases request with
  | create t title body uids =>
      refine Keeps.conseq serves_create (fun _ _ _ => trivial) fun answer s _ h => ?_
      intro t' title' body' uids' notificationId heq hanswer
      obtain ⟨rfl, rfl, rfl, rfl⟩ := NotificationRequest.create.inj heq
      exact h notificationId hanswer
  | retry id =>
      exact Keeps.conseq serves_retry (fun _ _ h => h) fun _ _ _ _ _ _ _ _ _ heq => by cases heq
  | markRead userId notificationId =>
      exact hother (fun _ _ _ _ => by simp) (serves_mark serves_markRecipientRead)
  | dismiss userId notificationId =>
      exact hother (fun _ _ _ _ => by simp) (serves_mark serves_markRecipientDismissed)
  | markReadBulk userId notificationIds =>
      exact hother (fun _ _ _ _ => by simp) serves_markReadBulk
  | putPreferences userId items => exact hother (fun _ _ _ _ => by simp) serves_putPreferences
  | registerSubscription userId =>
      exact hother (fun _ _ _ _ => by simp) serves_registerSubscription
  | revokeSubscription userId subscriptionId =>
      exact hother (fun _ _ _ _ => by simp) serves_revokeSubscription

/-- Every run keeps the invariant, and what has ended has kept its promise. -/
theorem notificationRun_sound (settings : SmtpSettings) (users : List (Nat × String))
    (turns : List NotificationTurn) :
    Ok (notificationRun settings users turns).state ∧
      ∀ (k : Nat) (request : NotificationRequest) (answer : NotificationAnswer),
        (notificationRun settings users turns).running[k]? = some (request, done answer) →
          Promised request answer (notificationRun settings users turns).state := by
  have hsound := Server.sound Ok Rely Guarantee (fun k s => ∀ id, mails k id s.log = 0)
    (fun _ => Promised) (serveNotification settings) (fun _ _ _ _ hjk _ hok h => h.rely hjk hok)
    (fun k s s' _ hrely h id => (hrely.mails id).trans (h id)) (ok_empty users)
    (fun _ _ => rfl) turns fun request _ k => serves_request settings k request
  exact hsound

/-- The last commit in the log is the stored row. -/
theorem notificationRun_preferences (settings : SmtpSettings) (users : List (Nat × String))
    (turns : List NotificationTurn) (userId : Nat) (t : String) :
    (notificationRun settings users turns).state.preferences.lookup (userId, t) =
      storedSwitches userId t (notificationRun settings users turns).state.log :=
  (notificationRun_sound settings users turns).1.preferences userId t

/-- **Nothing goes out on a channel that was switched off.** Whatever the requests, their order and
their deaths: a delivery has been attempted, at whatever time, only if the preference row stored for
its user allowed its channel when the notification was dispatched; mail goes to the address of that
user only, and no request mails a delivery twice. -/
theorem notifications_permitted (settings : SmtpSettings) (users : List (Nat × String))
    (turns : List NotificationTurn) :
    (∀ id d, (notificationRun settings users turns).state.deliveries.lookup id = some d →
      0 < d.attemptCount ∨ d.status ≠ .skipped →
        ∃ enabled, (notificationRun settings users turns).state.Resolved
          d.notificationRecipientId enabled ∧ d.channel ∈ enabled) ∧
      (∀ k id message answer,
        .mailed k id message answer ∈ (notificationRun settings users turns).state.log →
          (notificationRun settings users turns).state.Addressed id message.toEmail) ∧
      ∀ k id, mails k id (notificationRun settings users turns).state.log ≤ 1 := by
  obtain ⟨hok, -⟩ := notificationRun_sound settings users turns
  refine ⟨fun id d hd hactive => hok.permitted id d hd fun hskipped => ?_, hok.mailed,
    hok.mails_le⟩
  rcases hactive with hpos | hne
  · have := hok.skipped id d hd hskipped
    omega
  · exact hne hskipped

/-- The job worker tells two users that a workspace is ready. Meanwhile user 9 switches mail off,
before its own row is dispatched and after that of user 7, who reads the notification; afterwards a
push that failed is tried again. -/
def createdBesideOthers : List NotificationTurn :=
  let answered : NotificationInput := ⟨0, .accepted "m"⟩
  [.start (.create "workspace.create.succeeded" "Workspace created" "is ready to use." [7, 9]),
      .start (.putPreferences 9 [("workspace.create.succeeded", ⟨true, false, true⟩)]),
      .act 1 answered] ++
    List.replicate 20 (.act 0 answered) ++ [.act 1 answered, .start (.markRead 7 1)] ++
    List.replicate 3 (.act 2 answered) ++ List.replicate 40 (.act 0 answered) ++
    [.start (.registerSubscription 7), .act 3 answered, .start (.retry 3)] ++
    List.replicate 20 (.act 4 answered)

/-- With a mail server. -/
def besideOthers : NotificationServer :=
  notificationRun { smtpHost := "smtp", smtpFromAddress := "devnest" } [(7, "u"), (9, "v")]
    createdBesideOthers

/-- The answer of a request that has ended. -/
def NotificationServer.answerOf (c : NotificationServer) (k : Nat) :
    Option (NotificationRequest × NotificationAnswer) :=
  c.running[k]?.bind fun p => match p.2 with
    | done answer => some (p.1, answer)
    | act _ _ => none

theorem NotificationServer.done_of_answerOf {c : NotificationServer} {k : Nat}
    {request : NotificationRequest} {answer : NotificationAnswer}
    (h : c.answerOf k = some (request, answer)) : c.running[k]? = some (request, done answer) := by
  obtain ⟨⟨request', process⟩, hget, hanswer⟩ := Option.bind_eq_some_iff.mp h
  cases process with
  | done answer' =>
      obtain ⟨rfl, rfl⟩ := Prod.mk.inj (Option.some.inj hanswer)
      exact hget
  | act next rest => cases hanswer

/-- Only user 7 is mailed, and the push is delivered in the end. -/
example : (besideOthers.state.deliveries.lookup 2).map (·.status) = some .delivered ∧
    (besideOthers.state.deliveries.lookup 5).map (·.status) = some .skipped ∧
    (besideOthers.state.deliveries.lookup 3).map (·.status) = some .delivered := by
  decide +kernel

end Devnest
