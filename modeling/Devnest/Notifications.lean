import Devnest.Interleaving
import Devnest.PyText
import Devnest.Table

/-!
# Notifications

`notification_service`: an event has a recipient row for each user and a
delivery row for each recipient and channel. Rows are committed one at a
time, so other requests come between any two commits, and a process that dies
leaves what it has committed.

The log is what the rows do not keep: which request made a recipient, how each
commit left a preference row, which channels were resolved, and what went out
to the mail server.
-/

namespace Devnest

open Interleaving Interleaving.Process PyText

/-! ## Rows -/

inductive DeliveryChannel where
  | inApp | email | push
  deriving DecidableEq, Repr

inductive DeliveryStatus where
  | queued | sent | delivered | failed | skipped
  deriving DecidableEq, Repr

inductive RecipientStatus where
  | pending | delivered | failed | read | dismissed
  deriving DecidableEq, Repr

inductive NotificationStatus where
  | pending | partiallySent | sent | failed | cancelled
  deriving DecidableEq, Repr

structure Notification where
  type : String
  title : String
  body : String
  status : NotificationStatus
  deriving DecidableEq, Repr

structure NotificationRecipient where
  notificationId : Nat
  userId : Nat
  status : RecipientStatus
  readAt : Option Int := none
  dismissedAt : Option Int := none
  deriving DecidableEq, Repr

structure NotificationDelivery where
  notificationId : Nat
  notificationRecipientId : Nat
  channel : DeliveryChannel
  provider : String := "stub"
  status : DeliveryStatus
  attemptCount : Nat := 0
  lastErrorMessage : Option String := none
  providerMessageId : Option String := none
  deriving DecidableEq, Repr

/-- The switches of a preference row. -/
structure ChannelSwitches where
  inAppEnabled : Bool
  emailEnabled : Bool
  pushEnabled : Bool
  deriving DecidableEq, Repr

structure PushSubscription where
  userId : Nat
  revoked : Bool
  deriving DecidableEq, Repr

structure EmailMessage where
  toEmail : String
  subject : String
  textBody : String
  htmlBody : String
  deriving DecidableEq, Repr

/-- What the mail server does with a message: it takes it, or the connection ends with an
`OSError` or `SMTPException`, or something else is raised. -/
inductive SmtpAnswer where
  | accepted (messageId : String)
  | refused (text : String)
  | raised (text : String)
  deriving DecidableEq, Repr

/-- Each entry with the number of its request. -/
inductive NotificationEntry where
  | recipient (request recipientId : Nat)
  | resolved (recipientId userId : Nat) (notificationType : String)
      (enabled : List DeliveryChannel)
  /-- A commit has left the row of the user for this type so. -/
  | preference (userId : Nat) (notificationType : String) (row : ChannelSwitches)
  | mailed (request deliveryId : Nat) (message : EmailMessage) (answer : SmtpAnswer)
  deriving DecidableEq, Repr

structure NotificationDb where
  /-- The address of each user. -/
  users : List (Nat × String)
  notifications : Table Nat Notification := ∅
  recipients : Table Nat NotificationRecipient := ∅
  deliveries : Table Nat NotificationDelivery := ∅
  preferences : Table (Nat × String) ChannelSwitches := ∅
  subscriptions : Table Nat PushSubscription := ∅
  log : List NotificationEntry := []

/-- The clock, and the answer of the mail server if it is asked. -/
structure NotificationInput where
  now : Int
  smtp : SmtpAnswer

structure SmtpSettings where
  smtpHost : String := ""
  smtpFromAddress : String := ""

abbrev NotificationProcess := Process NotificationDb NotificationInput

namespace NotificationDb

def updateDelivery (id : Nat) (f : NotificationDelivery → NotificationDelivery)
    (db : NotificationDb) : NotificationDb :=
  match db.deliveries.lookup id with
  | some d => { db with deliveries := db.deliveries.insert id (f d) }
  | none => db

def updateRecipient (id : Nat) (f : NotificationRecipient → NotificationRecipient)
    (db : NotificationDb) : NotificationDb :=
  match db.recipients.lookup id with
  | some r => { db with recipients := db.recipients.insert id (f r) }
  | none => db

def updateNotification (id : Nat) (f : Notification → Notification) (db : NotificationDb) :
    NotificationDb :=
  match db.notifications.lookup id with
  | some n => { db with notifications := db.notifications.insert id (f n) }
  | none => db

/-- A commit of the preference row of a user for a type. -/
def storePreference (userId : Nat) (notificationType : String) (row : ChannelSwitches)
    (db : NotificationDb) : NotificationDb :=
  { db with
    preferences := db.preferences.insert (userId, notificationType) row
    log := .preference userId notificationType row :: db.log }

def updatePreference (userId : Nat) (notificationType : String)
    (f : ChannelSwitches → ChannelSwitches) (db : NotificationDb) : NotificationDb :=
  match db.preferences.lookup (userId, notificationType) with
  | some row => db.storePreference userId notificationType (f row)
  | none => db

/-- The recipient row of a user. -/
def recipientId (db : NotificationDb) (notificationId userId : Nat) : Option Nat :=
  db.recipients.keys.find? fun id => (db.recipients.lookup id).any fun r =>
    r.notificationId = notificationId ∧ r.userId = userId

/-- `list_subscriptions_for_user`, without the revoked ones: whether there is one. -/
def hasPushSubscription (db : NotificationDb) (userId : Nat) : Bool :=
  (Table.rows db.subscriptions).any fun s => s.userId = userId ∧ !s.revoked

/-- The statuses of a notification's deliveries. -/
def deliveryStatuses (db : NotificationDb) (notificationId : Nat) : List DeliveryStatus :=
  ((Table.rows db.deliveries).filter (·.notificationId = notificationId)).map (·.status)

end NotificationDb

/-! ## Channels -/

def allChannels : List DeliveryChannel := [.inApp, .email, .push]

def ChannelSwitches.on (switches : ChannelSwitches) : DeliveryChannel → Bool
  | .inApp => switches.inAppEnabled
  | .email => switches.emailEnabled
  | .push => switches.pushEnabled

/-- The `UPDATE` of a row that was read as `existing` and is to be `new`: it writes the columns that
differ from what was read. -/
def ChannelSwitches.overwrite (existing new stored : ChannelSwitches) : ChannelSwitches where
  inAppEnabled :=
    if new.inAppEnabled = existing.inAppEnabled then stored.inAppEnabled else new.inAppEnabled
  emailEnabled :=
    if new.emailEnabled = existing.emailEnabled then stored.emailEnabled else new.emailEnabled
  pushEnabled :=
    if new.pushEnabled = existing.pushEnabled then stored.pushEnabled else new.pushEnabled

theorem ChannelSwitches.overwrite_on (existing new stored : ChannelSwitches)
    (channel : DeliveryChannel) :
    (existing.overwrite new stored).on channel =
      if new.on channel = existing.on channel then stored.on channel else new.on channel := by
  cases channel <;> rfl

/-- The channels of `resolve_enabled_channels`: all of them where there is no row. -/
def enabledChannels (row : Option ChannelSwitches) : List DeliveryChannel :=
  match row with
  | none => allChannels
  | some switches => allChannels.filter switches.on

def NotificationDelivery.delivered (provider : String) (messageId : Option String)
    (d : NotificationDelivery) : NotificationDelivery :=
  { d with status := .delivered, provider, providerMessageId := messageId }

def NotificationDelivery.fail (message : String) (d : NotificationDelivery) :
    NotificationDelivery :=
  { d with status := .failed, lastErrorMessage := some message }

/-- `render_email`. -/
def renderEmail (n : Notification) (toEmail : String) : EmailMessage where
  toEmail := toEmail
  subject := n.title
  textBody := n.body
  htmlBody := "<html><body><p>" ++ n.body ++ "</p></body></html>"

/-- What an answer of the mail server leaves on the delivery; `try_deliver` takes other
exceptions. -/
def SmtpAnswer.settle : SmtpAnswer → NotificationDelivery → NotificationDelivery
  | .accepted messageId => (·.delivered "smtp" (some messageId))
  | .refused text => (·.fail (take 2048 text))
  | .raised text => (·.fail (take 2048 text))

section Requests

variable (settings : SmtpSettings) (request : Nat)

/-- `_send_via_smtp`: the message goes to the server. -/
def sendViaSmtp (id : Nat) (message : EmailMessage) : NotificationProcess SmtpAnswer :=
  action (fun db i => { db with log := .mailed request id message i.smtp :: db.log })
    fun _ i => i.smtp

/-- `apply_in_app_delivery`. -/
def applyInAppDelivery (id : Nat) : NotificationProcess Unit :=
  write (·.updateDelivery id fun d => { d with status := .delivered, provider := "in_app" })

/-- `apply_email_delivery`. -/
def applyEmailDelivery (id : Nat) (n : Notification) (userId : Nat) : NotificationProcess Unit := do
  let toEmail ← read fun db => (db.users.lookup userId).getD ""
  if strip settings.smtpHost = "" then
    write (·.updateDelivery id (·.delivered "stub_email" (some "stub-email-message-id")))
  else if strip settings.smtpFromAddress = "" then
    write (·.updateDelivery id (·.fail "smtp_from_address is not configured"))
  else if strip toEmail = "" then
    write (·.updateDelivery id (·.fail "recipient address is empty"))
  else do
    let answer ← sendViaSmtp request id (renderEmail n toEmail)
    write (·.updateDelivery id answer.settle)

/-- `apply_push_delivery`. -/
def applyPushDelivery (id userId : Nat) : NotificationProcess Unit := do
  let subscribed ← read (·.hasPushSubscription userId)
  if subscribed then
    write (·.updateDelivery id (·.delivered "stub_push" (some "stub-push-message-id")))
  else write (·.updateDelivery id (·.fail "no_active_push_subscriptions"))

def applyDelivery (id : Nat) (channel : DeliveryChannel) (n : Notification)
    (r : NotificationRecipient) : NotificationProcess Unit :=
  match channel with
  | .inApp => applyInAppDelivery id
  | .email => applyEmailDelivery settings request id n r.userId
  | .push => applyPushDelivery id r.userId

/-- A delivered recipient is no longer pending. -/
def promoteRecipient (id recipientId : Nat) : NotificationProcess Unit := do
  let d ← read (·.deliveries.lookup id)
  let rec_ ← read (·.recipients.lookup recipientId)
  if (d.any (·.status = .delivered)) && rec_.any (·.status = .pending) then
    write (·.updateRecipient recipientId ({ · with status := .delivered }))
  else pure ()

/-- The part of `try_deliver` after the attempt is counted. -/
def deliverCounted (id : Nat) (d : NotificationDelivery) (n : Option Notification)
    (r : Option NotificationRecipient) : NotificationProcess Unit :=
  match n, r with
  | some n, some r => do
      applyDelivery settings request id d.channel n r
      promoteRecipient id d.notificationRecipientId
  | _, _ => write (·.updateDelivery id (·.fail "missing_notification_or_recipient"))

/-- `try_deliver`; the value is the delivery as it is left. -/
def tryDeliver (id : Nat) : NotificationProcess (Option NotificationDelivery) := do
  let found ← read (·.deliveries.lookup id)
  match found with
  | none => pure none
  | some d =>
      if d.status = .skipped then pure (some d)
      else do
        write (·.updateDelivery id ({ · with attemptCount := d.attemptCount + 1 }))
        let n ← read (·.notifications.lookup d.notificationId)
        let r ← read (·.recipients.lookup d.notificationRecipientId)
        deliverCounted settings request id d n r
        read (·.deliveries.lookup id)

/-! ## Creating -/

/-- `create_recipient`; `none` is an `IntegrityError`: the user does not exist, or has a row. -/
def createRecipient (notificationId userId : Nat) : NotificationProcess (Option Nat) :=
  action (fun db _ =>
      if (db.users.lookup userId).isNone || (db.recipientId notificationId userId).isSome then db
      else
        { db with
          recipients := db.recipients.insert (Table.freshKey db.recipients)
            { notificationId, userId, status := .pending }
          log := .recipient request (Table.freshKey db.recipients) :: db.log })
    fun db _ =>
      if (db.users.lookup userId).isNone || (db.recipientId notificationId userId).isSome then none
      else some (Table.freshKey db.recipients)

/-- `create_delivery`. -/
def createDelivery (notificationId recipientId : Nat) (channel : DeliveryChannel)
    (status : DeliveryStatus) : NotificationProcess Nat :=
  action (fun db _ => { db with
      deliveries := db.deliveries.insert (Table.freshKey db.deliveries)
        { notificationId, notificationRecipientId := recipientId, channel, status } })
    fun db _ => Table.freshKey db.deliveries

/-- `resolve_enabled_channels`. -/
def resolveEnabledChannels (recipientId userId : Nat) (notificationType : String) :
    NotificationProcess (List DeliveryChannel) :=
  action (fun db _ => { db with
      log := .resolved recipientId userId notificationType
        (enabledChannels (db.preferences.lookup (userId, notificationType))) :: db.log })
    fun db _ => enabledChannels (db.preferences.lookup (userId, notificationType))

/-- One turn of the loop of `dispatch_for_recipient`. -/
def dispatchChannel (notificationId recipientId : Nat) (enabled : List DeliveryChannel)
    (channel : DeliveryChannel) : NotificationProcess Bool :=
  if channel ∈ enabled then do
    let id ← createDelivery notificationId recipientId channel .queued
    let _ ← tryDeliver settings request id
    pure true
  else do
    let _ ← createDelivery notificationId recipientId channel .skipped
    pure true

/-- One turn of the loop of `create_notification_event`, with `dispatch_for_recipient`. -/
def dispatchForRecipient (notificationId : Nat) (notificationType : String) (userId : Nat) :
    NotificationProcess Bool := do
  let created ← createRecipient request notificationId userId
  match created with
  | none => pure false
  | some recipientId => do
      let enabled ← resolveEnabledChannels recipientId userId notificationType
      forEach (dispatchChannel settings request notificationId recipientId enabled) allChannels

/-- `_derive_notification_status`. -/
def deriveNotificationStatus (statuses : List DeliveryStatus) : NotificationStatus :=
  if statuses.any (· = .queued) then .pending
  else if statuses.all (· = .skipped) then .sent
  else if statuses.any (· = .failed) then
    if statuses.any (· = .delivered) then .partiallySent else .failed
  else .sent

/-- `refresh_notification_status`. -/
def refreshNotificationStatus (notificationId : Nat) : NotificationProcess Unit := do
  let statuses ← read (·.deliveryStatuses notificationId)
  if statuses = [] then pure ()
  else do
    let n ← read (·.notifications.lookup notificationId)
    if n.any (·.status ≠ deriveNotificationStatus statuses) then
      write (·.updateNotification notificationId
        ({ · with status := deriveNotificationStatus statuses }))
    else pure ()

inductive NotificationAnswer where
  | created (notificationId : Nat)
  | delivery (row : NotificationDelivery)
  | done
  | notFound (detail : String)
  | conflict (detail : String)
  /-- A database error reaches the caller. -/
  | integrityError
  deriving DecidableEq, Repr

def createNotification (notificationType title body : String) : NotificationProcess Nat :=
  action (fun db _ => { db with
      notifications := db.notifications.insert (Table.freshKey db.notifications)
        { type := notificationType, title, body, status := .pending } })
    fun db _ => Table.freshKey db.notifications

/-- `create_notification_event`. -/
def createNotificationEvent (notificationType title body : String) (recipientUserIds : List Nat) :
    NotificationProcess NotificationAnswer := do
  let notificationId ← createNotification notificationType title body
  let all ← forEach (dispatchForRecipient settings request notificationId notificationType)
    recipientUserIds
  if all then do
    refreshNotificationStatus notificationId
    pure (.created notificationId)
  else pure .integrityError

/-- `retry_delivery`. -/
def retryDelivery (id : Nat) : NotificationProcess NotificationAnswer := do
  let found ← read (·.deliveries.lookup id)
  match found with
  | none => pure (.notFound "Delivery not found")
  | some d =>
      if d.status ≠ .failed then pure (.conflict "Delivery is not in a failed state")
      else do
        write (·.updateDelivery id ({ · with status := .queued, lastErrorMessage := none }))
        let result ← tryDeliver settings request id
        match result with
        | none => pure (.notFound "Delivery not found")
        | some d => pure (.delivery d)

end Requests

/-! ## What users do -/

/-- `mark_read` of the repository. -/
def markRecipientRead (recipientId : Nat) : NotificationProcess Unit :=
  action (fun db i => db.updateRecipient recipientId
      ({ · with readAt := some i.now, status := .read }))
    fun _ _ => ()

/-- `mark_dismissed`. -/
def markRecipientDismissed (recipientId : Nat) : NotificationProcess Unit :=
  action (fun db i => db.updateRecipient recipientId
      ({ · with dismissedAt := some i.now, status := .dismissed }))
    fun _ _ => ()

/-- `get_notification_for_user`, and then a mark on its recipient row. -/
def markForUser (mark : Nat → NotificationProcess Unit) (userId notificationId : Nat) :
    NotificationProcess NotificationAnswer := do
  let found ← read (·.recipientId notificationId userId)
  match found with
  | none => pure (.notFound "Notification not found")
  | some recipientId => do
      let n ← read (·.notifications.lookup notificationId)
      if n.isNone then pure (.notFound "Notification not found")
      else do
        mark recipientId
        pure .done

/-- `mark_read_bulk`: the rows are read at once and marked one by one. -/
def markReadBulk (userId : Nat) (notificationIds : List Nat) :
    NotificationProcess NotificationAnswer := do
  let rows ← read fun db => db.recipients.keys.filter fun id =>
    (db.recipients.lookup id).any fun r => r.userId = userId ∧ r.notificationId ∈ notificationIds
  let _ ← forEach (fun id => do
    markRecipientRead id
    pure true) rows
  pure .done

/-- `upsert_preference`; the value is false after an `IntegrityError`. -/
def upsertPreference (userId : Nat) (item : String × ChannelSwitches) :
    NotificationProcess Bool := do
  let existing ← read (·.preferences.lookup (userId, item.1))
  match existing with
  | none =>
      action (fun db _ => if (db.preferences.lookup (userId, item.1)).isSome then db
          else db.storePreference userId item.1 item.2)
        fun db _ => (db.preferences.lookup (userId, item.1)).isNone
  | some existing => do
      write (·.updatePreference userId item.1 (existing.overwrite item.2))
      pure true

/-- `put_preferences`. -/
def putPreferences (userId : Nat) (items : List (String × ChannelSwitches)) :
    NotificationProcess NotificationAnswer := do
  let all ← forEach (upsertPreference userId) items
  pure (if all then .done else .integrityError)

/-- `register_subscription`. -/
def registerSubscription (userId : Nat) : NotificationProcess NotificationAnswer := do
  write fun db => { db with
    subscriptions := db.subscriptions.insert (Table.freshKey db.subscriptions) ⟨userId, false⟩ }
  pure .done

/-- `revoke_subscription`. -/
def revokeSubscription (userId subscriptionId : Nat) : NotificationProcess NotificationAnswer := do
  let found ← read (·.subscriptions.lookup subscriptionId)
  if found.any (·.userId = userId) then do
    write fun db => match db.subscriptions.lookup subscriptionId with
      | some s => { db with
          subscriptions := db.subscriptions.insert subscriptionId { s with revoked := true } }
      | none => db
    pure .done
  else pure (.notFound "Push subscription not found")

/-! ## The service -/

inductive NotificationRequest where
  /-- From the job worker or another service. -/
  | create (notificationType title body : String) (recipientUserIds : List Nat)
  | retry (deliveryId : Nat)
  | markRead (userId notificationId : Nat)
  | dismiss (userId notificationId : Nat)
  | markReadBulk (userId : Nat) (notificationIds : List Nat)
  | putPreferences (userId : Nat) (items : List (String × ChannelSwitches))
  | registerSubscription (userId : Nat)
  | revokeSubscription (userId subscriptionId : Nat)
  deriving DecidableEq, Repr

/-- The user a request comes from, if one. -/
def NotificationRequest.user : NotificationRequest → Option Nat
  | .create _ _ _ _ | .retry _ => none
  | .markRead userId _ | .dismiss userId _ | .markReadBulk userId _ | .putPreferences userId _
  | .registerSubscription userId | .revokeSubscription userId _ => some userId

def serveNotification (settings : SmtpSettings) (request : Nat) :
    NotificationRequest → NotificationProcess NotificationAnswer
  | .create notificationType title body recipientUserIds =>
      createNotificationEvent settings request notificationType title body recipientUserIds
  | .retry deliveryId => retryDelivery settings request deliveryId
  | .markRead userId notificationId => markForUser markRecipientRead userId notificationId
  | .dismiss userId notificationId => markForUser markRecipientDismissed userId notificationId
  | .markReadBulk userId notificationIds => markReadBulk userId notificationIds
  | .putPreferences userId items => putPreferences userId items
  | .registerSubscription userId => registerSubscription userId
  | .revokeSubscription userId subscriptionId => revokeSubscription userId subscriptionId

abbrev NotificationServer :=
  Server NotificationDb NotificationInput NotificationAnswer NotificationRequest

abbrev NotificationTurn := Turn NotificationInput NotificationRequest

/-- The service after a run on a database without notifications. -/
def notificationRun (settings : SmtpSettings) (users : List (Nat × String))
    (turns : List NotificationTurn) : NotificationServer :=
  Runs.run (Server.step (serveNotification settings)) ⟨{ users := users }, []⟩ turns

end Devnest
