import Mathlib.Data.List.Sort
import Devnest.Runs

/-!
# The event stream of a workspace

Control-plane events are rows of one table. A row gets its id when it is
flushed and is seen by other sessions when its transaction commits, so ids
can become visible out of order. The stream polls the table with the
largest id it has sent as its cursor, one page at a time, in the order of
the ids; a client that was cut off asks for the rows after the largest id
it received.

`delivers_always_iff` says which interleavings of writers, polls and
reconnects lose nothing: those where no commit brings up a row at or below
the cursor.
-/

namespace Devnest

open Runs

/-! ## The table -/

structure WorkspaceEvent where
  workspaceEventId : Nat
  workspaceId : Nat
  eventType : String
  status : Option String
  message : Option String
  payloadJson : String
  createdAt : Int
  deriving DecidableEq, Repr

/-- The `workspace_event` table as its sessions see it. -/
structure EventTable where
  /-- Owners by workspace. -/
  workspaces : List (Nat × Nat)
  /-- The next value of the id sequence; a rolled back row does not give its id back. -/
  nextId : Nat
  /-- Rows that a transaction has flushed and not committed. -/
  flushed : Nat → List WorkspaceEvent
  /-- Rows that every session sees. -/
  committed : List WorkspaceEvent

def EventTable.init (workspaces : List (Nat × Nat)) : EventTable where
  workspaces := workspaces
  nextId := 1
  flushed _ := []
  committed := []

/-- What a caller of `record_workspace_event` says. -/
structure EventFields where
  workspaceId : Nat
  eventType : String
  status : Option String := none
  message : Option String := none
  payload : Option String := none
  now : Int := 0
  deriving DecidableEq, Repr

/-- `record_workspace_event` in the transaction `tx`. -/
def recordWorkspaceEvent (tx : Nat) (f : EventFields) (t : EventTable) : EventTable × Nat :=
  let row : WorkspaceEvent :=
    { workspaceEventId := t.nextId
      workspaceId := f.workspaceId
      eventType := f.eventType
      status := f.status
      message := f.message
      payloadJson := f.payload.getD "\x7b\x7d"
      createdAt := f.now }
  ({ t with
      nextId := t.nextId + 1
      flushed := Function.update t.flushed tx (t.flushed tx ++ [row]) }, t.nextId)

/-- What the writers of the table do. -/
inductive TableStep where
  | record (tx : Nat) (f : EventFields)
  | commit (tx : Nat)
  | rollback (tx : Nat)
  deriving DecidableEq, Repr

def EventTable.step (t : EventTable) : TableStep → EventTable
  | .record tx f => (recordWorkspaceEvent tx f t).1
  | .commit tx =>
      { t with
        flushed := Function.update t.flushed tx []
        committed := t.committed ++ t.flushed tx }
  | .rollback tx => { t with flushed := Function.update t.flushed tx [] }

/-- `assert_workspace_owner`. -/
def assertWorkspaceOwner (t : EventTable) (workspaceId ownerUserId : Nat) : Except String Unit :=
  if t.workspaces.lookup workspaceId = some ownerUserId then .ok ()
  else .error "Workspace not found"

/-- `list_workspace_events`. -/
def listWorkspaceEvents (t : EventTable) (workspaceId ownerUserId afterId limit : Nat) :
    Except String (List WorkspaceEvent) :=
  if t.workspaces.lookup workspaceId = some ownerUserId then
    let rows := t.committed.filter fun e =>
      e.workspaceId = workspaceId ∧ afterId < e.workspaceEventId
    let ordered := rows.insertionSort fun a b => a.workspaceEventId ≤ b.workspaceEventId
    .ok (ordered.take (min (max 1 limit) 1000))
  else .error "Workspace not found"

/-! ## A connection -/

def eventPageLimit : Nat := 250

/-- One response of `stream_workspace_events`: its cursor and the events it has yielded. -/
structure EventStream where
  workspaceId : Nat
  ownerUserId : Nat
  lastId : Nat
  sent : List WorkspaceEvent
  /-- The loop ended with `workspace_not_found`. -/
  ended : Bool

/-- The start of `stream_workspace_events`; an error is the answer 404. -/
def streamWorkspaceEvents (t : EventTable) (workspaceId ownerUserId lastEventId : Nat) :
    Except String EventStream := do
  assertWorkspaceOwner t workspaceId ownerUserId
  return { workspaceId, ownerUserId, lastId := lastEventId, sent := [], ended := false }

/-- The body of the loop over a page: the event is yielded and the cursor moves to it. -/
def EventStream.yieldEvent (s : EventStream) (e : WorkspaceEvent) : EventStream :=
  { s with lastId := max s.lastId e.workspaceEventId, sent := s.sent ++ [e] }

/-- One turn of the loop, after the wait for a notification or the timeout. -/
def EventStream.poll (t : EventTable) (s : EventStream) : EventStream :=
  if s.ended then s
  else
    match listWorkspaceEvents t s.workspaceId s.ownerUserId s.lastId eventPageLimit with
    | .error _ => { s with ended := true }
    | .ok events => events.foldl EventStream.yieldEvent s

/-! ## Writers, a stream and its client -/

/-- The table, the open connection and what the client holds from earlier ones. -/
structure Feed where
  table : EventTable
  stream : EventStream
  received : List WorkspaceEvent

/-- What the client has, when nothing of the open connection is lost. -/
def Feed.got (f : Feed) : List WorkspaceEvent := f.received ++ f.stream.sent

def largestId (events : List WorkspaceEvent) : Nat :=
  events.foldl (fun n e => max n e.workspaceEventId) 0

/-- The first connection. A client that passes `last_event_id` holds what was
visible up to it. -/
def openFeed (t : EventTable) (workspaceId ownerUserId lastEventId : Nat) :
    Except String Feed := do
  let stream ← streamWorkspaceEvents t workspaceId ownerUserId lastEventId
  let held := t.committed.filter fun e =>
    e.workspaceId = workspaceId ∧ e.workspaceEventId ≤ lastEventId
  return { table := t, stream, received := held }

inductive FeedStep where
  | write (st : TableStep)
  | poll
  /-- The connection breaks after the client has received `arrived` of its events, and the
  client asks for what follows the largest id it has received. -/
  | reconnect (arrived : Nat)
  deriving DecidableEq, Repr

def FeedStep.isPoll : FeedStep → Bool
  | .poll => true
  | _ => false

def FeedStep.isReconnect : FeedStep → Bool
  | .reconnect _ => true
  | _ => false

def Feed.reconnect (f : Feed) (arrived : Nat) : Feed :=
  let received := f.received ++ f.stream.sent.take arrived
  match streamWorkspaceEvents f.table f.stream.workspaceId f.stream.ownerUserId
      (largestId received) with
  | .ok stream => { f with stream, received }
  | .error _ => { f with received, stream := { f.stream with sent := [], ended := true } }

def Feed.step (f : Feed) : FeedStep → Feed
  | .write st => { f with table := f.table.step st }
  | .poll => { f with stream := f.stream.poll f.table }
  | .reconnect arrived => f.reconnect arrived

/-- Every event of the workspace that is visible now reaches the client exactly once: it
has it after any continuation of the open connection with as many polls as the id says. -/
def Delivers (f : Feed) : Prop :=
  ∀ more : List FeedStep, (∀ st ∈ more, st.isReconnect = false) →
    ∀ e ∈ f.table.committed, e.workspaceId = f.stream.workspaceId →
      e.workspaceEventId ≤ more.countP FeedStep.isPoll →
        (run Feed.step f more).got.count e = 1

/-- A commit brings up only rows above the cursor of the workspace's stream. -/
def CommitsAhead (f : Feed) : FeedStep → Prop
  | .write (.commit tx) => ∀ e ∈ f.table.flushed tx,
      e.workspaceId = f.stream.workspaceId → f.stream.lastId < e.workspaceEventId
  | _ => True

instance (f : Feed) : ∀ st : FeedStep, Decidable (CommitsAhead f st)
  | .write (.commit tx) => inferInstanceAs (Decidable (∀ e ∈ f.table.flushed tx,
      e.workspaceId = f.stream.workspaceId → f.stream.lastId < e.workspaceEventId))
  | .write (.record _ _) => .isTrue trivial
  | .write (.rollback _) => .isTrue trivial
  | .poll => .isTrue trivial
  | .reconnect _ => .isTrue trivial

/-! ## Rows and their ids -/

/-- Every row has an id of its own, and the sequence is past it. -/
structure EventTable.WellFormed (t : EventTable) : Prop where
  committed_nodup : (t.committed.map (·.workspaceEventId)).Nodup
  flushed_nodup : ∀ tx, ((t.flushed tx).map (·.workspaceEventId)).Nodup
  apart : ∀ tx, ∀ e ∈ t.flushed tx, ∀ e' ∈ t.committed, e.workspaceEventId ≠ e'.workspaceEventId
  flushed_apart : ∀ tx tx', tx ≠ tx' → ∀ e ∈ t.flushed tx, ∀ e' ∈ t.flushed tx',
    e.workspaceEventId ≠ e'.workspaceEventId
  committed_lt : ∀ e ∈ t.committed, e.workspaceEventId < t.nextId
  flushed_lt : ∀ tx, ∀ e ∈ t.flushed tx, e.workspaceEventId < t.nextId

theorem EventTable.wellFormed_init (workspaces : List (Nat × Nat)) :
    (EventTable.init workspaces).WellFormed := by
  constructor <;> simp [EventTable.init]

/-- What is flushed after a transaction's rows are replaced. -/
theorem mem_update {flushed : Nat → List WorkspaceEvent} {tx tx' : Nat}
    {rows : List WorkspaceEvent} {e : WorkspaceEvent}
    (h : e ∈ Function.update flushed tx rows tx') :
    (tx' = tx ∧ e ∈ rows) ∨ (tx' ≠ tx ∧ e ∈ flushed tx') := by
  by_cases htx : tx' = tx
  · subst htx
    exact .inl ⟨rfl, by simpa using h⟩
  · exact .inr ⟨htx, by simpa [Function.update_of_ne htx] using h⟩

/-- The table without the rows that a transaction has flushed. -/
theorem EventTable.WellFormed.drop {t : EventTable} (h : t.WellFormed) (tx : Nat) :
    EventTable.WellFormed { t with flushed := Function.update t.flushed tx [] } where
  committed_nodup := h.committed_nodup
  flushed_nodup tx' := by
    by_cases htx : tx' = tx
    · subst htx
      simp
    · simpa [Function.update_of_ne htx] using h.flushed_nodup tx'
  apart tx' e he e' he' := by
    obtain ⟨-, he⟩ | ⟨-, he⟩ := mem_update he
    · simp at he
    · exact h.apart tx' e he e' he'
  flushed_apart tx₁ tx₂ hne e he e' he' := by
    obtain ⟨-, he⟩ | ⟨-, he⟩ := mem_update he
    · simp at he
    · obtain ⟨-, he'⟩ | ⟨-, he'⟩ := mem_update he'
      · simp at he'
      · exact h.flushed_apart tx₁ tx₂ hne e he e' he'
  committed_lt := h.committed_lt
  flushed_lt tx' e he := by
    obtain ⟨-, he⟩ | ⟨-, he⟩ := mem_update he
    · simp at he
    · exact h.flushed_lt tx' e he

theorem EventTable.WellFormed.commit {t : EventTable} (h : t.WellFormed) (tx : Nat) :
    (t.step (.commit tx)).WellFormed where
  committed_nodup := by
    simp only [EventTable.step, List.map_append]
    refine List.Nodup.append h.committed_nodup (h.flushed_nodup tx) ?_
    intro n hn hn'
    obtain ⟨e, he, rfl⟩ := List.mem_map.mp hn
    obtain ⟨e', he', hid⟩ := List.mem_map.mp hn'
    exact h.apart tx e' he' e he hid
  flushed_nodup := (h.drop tx).flushed_nodup
  apart tx' e he e' he' := by
    obtain ⟨-, he⟩ | ⟨hne, he⟩ := mem_update he
    · simp at he
    · rcases List.mem_append.mp he' with he' | he'
      · exact h.apart tx' e he e' he'
      · exact h.flushed_apart tx' tx hne e he e' he'
  flushed_apart := (h.drop tx).flushed_apart
  committed_lt e he := by
    rcases List.mem_append.mp he with he | he
    · exact h.committed_lt e he
    · exact h.flushed_lt tx e he
  flushed_lt := (h.drop tx).flushed_lt

theorem EventTable.WellFormed.record {t : EventTable} (h : t.WellFormed) (tx : Nat)
    (f : EventFields) : (t.step (.record tx f)).WellFormed := by
  -- a flushed row is an old one, or the new one with the id that was next
  have hrow : ∀ {tx' : Nat} {e : WorkspaceEvent}, e ∈ (t.step (.record tx f)).flushed tx' →
      e ∈ t.flushed tx' ∨ (tx' = tx ∧ e.workspaceEventId = t.nextId) := by
    intro tx' e he
    obtain ⟨rfl, he⟩ | ⟨-, he⟩ := mem_update he
    · rcases List.mem_append.mp he with he | he
      · exact .inl he
      · obtain rfl := List.mem_singleton.mp he
        exact .inr ⟨rfl, rfl⟩
    · exact .inl he
  constructor
  · exact h.committed_nodup
  · intro tx'
    by_cases htx : tx' = tx
    · subst htx
      simp only [EventTable.step, recordWorkspaceEvent, Function.update_self, List.map_append]
      refine List.Nodup.append (h.flushed_nodup tx') (List.nodup_singleton _) ?_
      intro n hn hn'
      obtain ⟨e, he, rfl⟩ := List.mem_map.mp hn
      have hid : e.workspaceEventId = t.nextId := by simpa using hn'
      exact Nat.lt_irrefl _ (hid ▸ h.flushed_lt tx' e he)
    · simpa [EventTable.step, recordWorkspaceEvent, Function.update_of_ne htx]
        using h.flushed_nodup tx'
  · intro tx' e he e' he'
    rcases hrow he with he | ⟨-, hid⟩
    · exact h.apart tx' e he e' he'
    · rw [hid]
      exact (h.committed_lt e' he').ne'
  · intro tx₁ tx₂ hne e he e' he'
    rcases hrow he with hold | ⟨htx, hid⟩
    · rcases hrow he' with hold' | ⟨-, hid'⟩
      · exact h.flushed_apart tx₁ tx₂ hne e hold e' hold'
      · rw [hid']
        exact (h.flushed_lt tx₁ e hold).ne
    · rcases hrow he' with hold' | ⟨htx', -⟩
      · rw [hid]
        exact (h.flushed_lt tx₂ e' hold').ne'
      · exact absurd (htx.trans htx'.symm) hne
  · exact fun e he => (h.committed_lt e he).trans (Nat.lt_succ_self _)
  · intro tx' e he
    show e.workspaceEventId < t.nextId + 1
    rcases hrow he with he | ⟨-, hid⟩
    · exact (h.flushed_lt tx' e he).trans (Nat.lt_succ_self _)
    · omega

theorem EventTable.WellFormed.step {t : EventTable} (h : t.WellFormed) (st : TableStep) :
    (t.step st).WellFormed := by
  cases st with
  | record tx f => exact h.record tx f
  | commit tx => exact h.commit tx
  | rollback tx => exact h.drop tx

theorem EventTable.wellFormed_run (workspaces : List (Nat × Nat)) (steps : List TableStep) :
    (run EventTable.step (EventTable.init workspaces) steps).WellFormed :=
  Reachable.invariant ⟨steps, rfl⟩ (EventTable.wellFormed_init workspaces) fun _ st h => h.step st

theorem EventTable.step_workspaces (t : EventTable) (st : TableStep) :
    (t.step st).workspaces = t.workspaces := by
  cases st <;> rfl

theorem EventTable.mem_step {t : EventTable} {e : WorkspaceEvent} (h : e ∈ t.committed)
    (st : TableStep) : e ∈ (t.step st).committed := by
  cases st with
  | record tx f => exact h
  | commit tx => exact List.mem_append_left _ h
  | rollback tx => exact h

/-! ## What a poll sends -/

/-- The rows of the workspace after the cursor, in the order of their ids. -/
def pageRows (t : EventTable) (workspaceId afterId : Nat) : List WorkspaceEvent :=
  (t.committed.filter fun e => e.workspaceId = workspaceId ∧ afterId < e.workspaceEventId
    ).insertionSort fun a b => a.workspaceEventId ≤ b.workspaceEventId

theorem mem_pageRows {t : EventTable} {w n : Nat} {e : WorkspaceEvent} :
    e ∈ pageRows t w n ↔ e ∈ t.committed ∧ e.workspaceId = w ∧ n < e.workspaceEventId := by
  simp [pageRows]

theorem pageRows_sorted {t : EventTable} (h : t.WellFormed) (w n : Nat) :
    (pageRows t w n).Pairwise fun a b => a.workspaceEventId < b.workspaceEventId := by
  have hle : (pageRows t w n).Pairwise fun a b => a.workspaceEventId ≤ b.workspaceEventId :=
    List.pairwise_insertionSort _ _
  have hrows : ((t.committed.filter fun e => e.workspaceId = w ∧ n < e.workspaceEventId).map
      (·.workspaceEventId)).Nodup :=
    h.committed_nodup.sublist (List.Sublist.map _ List.filter_sublist)
  have hne : (pageRows t w n).Pairwise fun a b => a.workspaceEventId ≠ b.workspaceEventId :=
    List.pairwise_map.mp (((List.perm_insertionSort _ _).map _).nodup_iff.mpr hrows)
  exact (hle.and hne).imp fun h => Nat.lt_of_le_of_ne h.1 h.2

/-- The page of a poll: a first part of the rows after the cursor, and not an empty one
unless there are none. -/
theorem poll_page (t : EventTable) (s : EventStream) (hopen : s.ended = false)
    (howner : t.workspaces.lookup s.workspaceId = some s.ownerUserId) :
    ∃ page rest, pageRows t s.workspaceId s.lastId = page ++ rest ∧ (page = [] → rest = [])
      ∧ s.poll t = page.foldl EventStream.yieldEvent s := by
  refine ⟨(pageRows t s.workspaceId s.lastId).take 250,
    (pageRows t s.workspaceId s.lastId).drop 250, (List.take_append_drop _ _).symm, ?_, ?_⟩
  · intro hnil
    rcases List.take_eq_nil_iff.mp hnil with h | h
    · exact absurd h (by decide)
    · rw [h, List.drop_nil]
  · simp only [EventStream.poll, hopen, Bool.false_eq_true, if_false, listWorkspaceEvents,
      if_pos howner]
    rfl

/-- What the loop over a page leaves: the page has been sent and the cursor stands at its
last event. -/
theorem foldl_yieldEvent (page : List WorkspaceEvent) (s : EventStream) :
    page.foldl EventStream.yieldEvent s
      = { s with
          lastId := page.foldl (fun n e => max n e.workspaceEventId) s.lastId
          sent := s.sent ++ page } := by
  induction page generalizing s with
  | nil => simp
  | cons e page ih => rw [List.foldl_cons, ih]; simp [EventStream.yieldEvent]

theorem le_foldl_max (l : List WorkspaceEvent) (n : Nat) :
    n ≤ l.foldl (fun n e => max n e.workspaceEventId) n
      ∧ ∀ e ∈ l, e.workspaceEventId ≤ l.foldl (fun n e => max n e.workspaceEventId) n := by
  induction l generalizing n with
  | nil => simp
  | cons a l ih =>
      have hrest := ih (max n a.workspaceEventId)
      rw [List.foldl_cons]
      refine ⟨(le_max_left _ _).trans hrest.1, fun e he => ?_⟩
      rcases List.mem_cons.mp he with rfl | he
      · exact (le_max_right _ _).trans hrest.1
      · exact hrest.2 e he

theorem foldl_max_lt {l : List WorkspaceEvent} {n m : Nat} (hn : n < m)
    (hl : ∀ e ∈ l, e.workspaceEventId < m) :
    l.foldl (fun n e => max n e.workspaceEventId) n < m := by
  induction l generalizing n with
  | nil => exact hn
  | cons a l ih =>
      rw [List.foldl_cons]
      exact ih (max_lt hn (hl a List.mem_cons_self)) fun e he => hl e (List.mem_cons_of_mem _ he)

/-! ## What holds along every run -/

/-- The connection is open, what the client has are rows of its workspace up to the
cursor, each once and in the order of the ids. -/
structure Feed.Ordered (f : Feed) : Prop where
  rows : f.table.WellFormed
  running : f.stream.ended = false
  owner : f.table.workspaces.lookup f.stream.workspaceId = some f.stream.ownerUserId
  visible : ∀ e ∈ f.got, e ∈ f.table.committed ∧ e.workspaceId = f.stream.workspaceId
  below : ∀ e ∈ f.got, e.workspaceEventId ≤ f.stream.lastId
  nodup : f.got.Nodup
  sorted : f.stream.sent.Pairwise fun a b => a.workspaceEventId < b.workspaceEventId
  after : ∀ e ∈ f.received, ∀ e' ∈ f.stream.sent, e.workspaceEventId < e'.workspaceEventId
  positive : ∀ e ∈ f.stream.sent, 0 < e.workspaceEventId

/-- Every visible row of the workspace has reached the client or is above the cursor. -/
def Feed.NoneLost (f : Feed) : Prop :=
  ∀ e ∈ f.table.committed, e.workspaceId = f.stream.workspaceId →
    e ∈ f.got ∨ f.stream.lastId < e.workspaceEventId

/-- What one poll does: it sends rows above the cursor in order and moves the cursor up to
them, and a row above the cursor that it does not send stays above it. -/
theorem Feed.Ordered.poll_spec {f : Feed} (h : f.Ordered) :
    ∃ (page : List WorkspaceEvent) (n : Nat),
      f.step .poll = { f with stream := { f.stream with lastId := n, sent := f.stream.sent ++ page } }
      ∧ (∀ e ∈ page, e ∈ f.table.committed ∧ e.workspaceId = f.stream.workspaceId
          ∧ f.stream.lastId < e.workspaceEventId)
      ∧ page.Pairwise (fun a b => a.workspaceEventId < b.workspaceEventId)
      ∧ f.stream.lastId ≤ n ∧ (∀ e ∈ page, e.workspaceEventId ≤ n)
      ∧ ∀ e ∈ f.table.committed, e.workspaceId = f.stream.workspaceId →
          f.stream.lastId < e.workspaceEventId →
          e ∈ page ∨ f.stream.lastId < n ∧ n < e.workspaceEventId := by
  obtain ⟨page, rest, hrows, hnil, hpoll⟩ := poll_page f.table f.stream h.running h.owner
  have hsorted := pageRows_sorted h.rows f.stream.workspaceId f.stream.lastId
  rw [hrows] at hsorted
  obtain ⟨hpage, -, hcross⟩ := List.pairwise_append.mp hsorted
  have hmem : ∀ e ∈ page, e ∈ f.table.committed ∧ e.workspaceId = f.stream.workspaceId
      ∧ f.stream.lastId < e.workspaceEventId :=
    fun e he => mem_pageRows.mp (hrows ▸ List.mem_append_left _ he)
  obtain ⟨hle, hall⟩ := le_foldl_max page f.stream.lastId
  refine ⟨page, page.foldl (fun n e => max n e.workspaceEventId) f.stream.lastId, ?_, hmem, hpage,
    hle, hall, ?_⟩
  · rw [Feed.step, hpoll, foldl_yieldEvent]
  · intro e he hw hlt
    have hin : e ∈ page ++ rest := hrows ▸ mem_pageRows.mpr ⟨he, hw, hlt⟩
    rcases List.mem_append.mp hin with hin | hin
    · exact .inl hin
    · refine .inr ⟨?_, foldl_max_lt hlt fun e' he' => hcross e' he' e hin⟩
      cases page with
      | nil => rw [hnil rfl] at hin; cases hin
      | cons a page =>
          exact (hmem a List.mem_cons_self).2.2.trans_le (hall a List.mem_cons_self)

theorem Feed.Ordered.write {f : Feed} (h : f.Ordered) (st : TableStep) :
    (f.step (.write st)).Ordered where
  rows := h.rows.step st
  running := h.running
  owner := by
    show (f.table.step st).workspaces.lookup _ = _
    rw [EventTable.step_workspaces]
    exact h.owner
  visible e he := ⟨EventTable.mem_step (h.visible e he).1 st, (h.visible e he).2⟩
  below := h.below
  nodup := h.nodup
  sorted := h.sorted
  after := h.after
  positive := h.positive

theorem Feed.Ordered.poll {f : Feed} (h : f.Ordered) : (f.step .poll).Ordered := by
  obtain ⟨page, n, heq, hmem, hsorted, hle, hall, -⟩ := h.poll_spec
  have hgot : (f.step .poll).got = f.got ++ page := by
    rw [heq]
    exact (List.append_assoc _ _ _).symm
  have hpage : page.Nodup := hsorted.imp fun hlt heq => by simp [heq] at hlt
  have hapart : ∀ e ∈ f.got, ∀ e' ∈ page, e.workspaceEventId < e'.workspaceEventId :=
    fun e he e' he' => (h.below e he).trans_lt (hmem e' he').2.2
  constructor
  · rw [heq]; exact h.rows
  · rw [heq]; exact h.running
  · rw [heq]; exact h.owner
  · intro e he
    rw [hgot] at he
    rw [heq]
    rcases List.mem_append.mp he with he | he
    · exact h.visible e he
    · exact ⟨(hmem e he).1, (hmem e he).2.1⟩
  · intro e he
    rw [hgot] at he
    rw [heq]
    rcases List.mem_append.mp he with he | he
    · exact (h.below e he).trans hle
    · exact hall e he
  · rw [hgot]
    exact h.nodup.append hpage fun e he he' => Nat.lt_irrefl _ (hapart e he e he')
  · rw [heq]
    refine List.pairwise_append.mpr ⟨h.sorted, hsorted, fun e he e' he' => ?_⟩
    exact hapart e (List.mem_append_right _ he) e' he'
  · rw [heq]
    intro e he e' he'
    rcases List.mem_append.mp he' with he' | he'
    · exact h.after e he e' he'
    · exact hapart e (List.mem_append_left _ he) e' he'
  · rw [heq]
    intro e he
    rcases List.mem_append.mp he with he | he
    · exact h.positive e he
    · exact Nat.zero_lt_of_lt (hmem e he).2.2

/-- A new connection starts after what the client has received. -/
theorem Feed.Ordered.reconnect_eq {f : Feed} (h : f.Ordered) (arrived : Nat) :
    f.step (.reconnect arrived) =
      { f with
        received := f.received ++ f.stream.sent.take arrived
        stream := { f.stream with
          lastId := largestId (f.received ++ f.stream.sent.take arrived)
          sent := [] } } := by
  have hstream : streamWorkspaceEvents f.table f.stream.workspaceId f.stream.ownerUserId
      (largestId (f.received ++ f.stream.sent.take arrived))
      = .ok { f.stream with
          lastId := largestId (f.received ++ f.stream.sent.take arrived)
          sent := [] } := by
    simp only [streamWorkspaceEvents, assertWorkspaceOwner, if_pos h.owner, ← h.running]
    rfl
  simp only [Feed.step, Feed.reconnect, hstream]

theorem Feed.got_reconnect_sublist (f : Feed) (arrived : Nat) :
    (f.received ++ f.stream.sent.take arrived).Sublist f.got :=
  List.Sublist.append_left (List.take_sublist _ _) _

theorem Feed.Ordered.reconnect {f : Feed} (h : f.Ordered) (arrived : Nat) :
    (f.step (.reconnect arrived)).Ordered := by
  have hsub := f.got_reconnect_sublist arrived
  rw [h.reconnect_eq arrived]
  constructor
  · exact h.rows
  · exact h.running
  · exact h.owner
  · intro e he
    exact h.visible e (hsub.subset (by simpa [Feed.got] using he))
  · intro e he
    exact (le_foldl_max _ 0).2 e (by simpa [Feed.got] using he)
  · simpa [Feed.got] using h.nodup.sublist hsub
  · exact List.Pairwise.nil
  · intro e _ e' he'
    cases he'
  · intro e he
    cases he

theorem Feed.Ordered.step {f : Feed} (h : f.Ordered) (st : FeedStep) : (f.step st).Ordered := by
  cases st with
  | write st => exact h.write st
  | poll => exact h.poll
  | reconnect arrived => exact h.reconnect arrived

/-! ## Nothing is lost -/

theorem Feed.NoneLost.step {f : Feed} (h : f.Ordered) (hn : f.NoneLost) {st : FeedStep}
    (hst : CommitsAhead f st) : (f.step st).NoneLost := by
  cases st with
  | write st =>
      cases st with
      | record tx fields => exact hn
      | rollback tx => exact hn
      | commit tx =>
          intro e he hw
          rcases List.mem_append.mp he with he | he
          · exact hn e he hw
          · exact .inr (hst e he hw)
  | poll =>
      obtain ⟨page, n, heq, -, -, -, -, hrest⟩ := h.poll_spec
      have hgot : (f.step .poll).got = f.got ++ page := by
        rw [heq]
        exact (List.append_assoc _ _ _).symm
      intro e he hw
      rw [hgot]
      rw [heq] at he hw ⊢
      rcases hn e he hw with hin | hlt
      · exact .inl (List.mem_append_left _ hin)
      · rcases hrest e he hw hlt with hin | ⟨-, hlt'⟩
        · exact .inl (List.mem_append_right _ hin)
        · exact .inr hlt'
  | reconnect arrived =>
      have hsub := f.got_reconnect_sublist arrived
      rw [h.reconnect_eq arrived]
      intro e he hw
      -- what did not arrive has a larger id than everything that did
      rcases hn e he hw with hin | hlt
      · rw [Feed.got, ← List.take_append_drop arrived f.stream.sent, ← List.append_assoc] at hin
        rcases List.mem_append.mp hin with hin | hin
        · exact .inl (List.mem_append_left _ hin)
        · refine .inr (foldl_max_lt (h.positive e (List.mem_of_mem_drop hin)) fun e' he' => ?_)
          have hcross := h.sorted
          rw [← List.take_append_drop arrived f.stream.sent] at hcross
          rcases List.mem_append.mp he' with he' | he'
          · exact h.after e' he' e (List.mem_of_mem_drop hin)
          · exact (List.pairwise_append.mp hcross).2.2 e' he' e hin
      · refine .inr (foldl_max_lt (Nat.zero_lt_of_lt hlt) fun e' he' => ?_)
        exact (h.below e' (hsub.subset he')).trans_lt hlt

/-- A row that the client has, or that is above the cursor with enough polls to come, is
with the client in the end. -/
theorem Feed.Ordered.reaches {f : Feed} (h : f.Ordered) {e : WorkspaceEvent}
    (he : e ∈ f.table.committed) (hw : e.workspaceId = f.stream.workspaceId)
    (more : List FeedStep) (hmore : ∀ st ∈ more, st.isReconnect = false)
    (hwait : e ∈ f.got ∨ f.stream.lastId < e.workspaceEventId
      ∧ e.workspaceEventId ≤ f.stream.lastId + more.countP FeedStep.isPoll) :
    e ∈ (run Feed.step f more).got := by
  induction more generalizing f with
  | nil =>
      rcases hwait with hin | ⟨hlt, hle⟩
      · exact hin
      · exact absurd hlt (by simpa using hle)
  | cons st more ih =>
      have hmore' : ∀ st ∈ more, st.isReconnect = false :=
        fun st hst => hmore st (List.mem_cons_of_mem _ hst)
      cases st with
      | write st =>
          refine ih (h.write st) (EventTable.mem_step he st) hw hmore' ?_
          rw [List.countP_cons_of_neg (by simp [FeedStep.isPoll])] at hwait
          exact hwait
      | poll =>
          obtain ⟨page, n, heq, -, -, -, -, hrest⟩ := h.poll_spec
          have hgot : (f.step .poll).got = f.got ++ page := by
            rw [heq]
            exact (List.append_assoc _ _ _).symm
          refine ih h.poll (by rw [heq]; exact he) (by rw [heq]; exact hw) hmore' ?_
          rw [hgot]
          rcases hwait with hin | ⟨hlt, hle⟩
          · exact .inl (List.mem_append_left _ hin)
          · rcases hrest e he hw hlt with hin | ⟨hup, hlt'⟩
            · exact .inl (List.mem_append_right _ hin)
            · rw [List.countP_cons_of_pos rfl] at hle
              rw [heq]
              exact .inr ⟨hlt', by simp only; omega⟩
      | reconnect arrived =>
          exact absurd (hmore _ List.mem_cons_self) (by simp [FeedStep.isReconnect])

/-- A row below the cursor that the client does not have is never sent. -/
theorem Feed.Ordered.misses {f : Feed} (h : f.Ordered) {e : WorkspaceEvent} (hnot : e ∉ f.got)
    (hle : e.workspaceEventId ≤ f.stream.lastId) (more : List FeedStep)
    (hmore : ∀ st ∈ more, st.isReconnect = false) : e ∉ (run Feed.step f more).got := by
  induction more generalizing f with
  | nil => exact hnot
  | cons st more ih =>
      have hmore' : ∀ st ∈ more, st.isReconnect = false :=
        fun st hst => hmore st (List.mem_cons_of_mem _ hst)
      cases st with
      | write st => exact ih (h.write st) hnot hle hmore'
      | poll =>
          obtain ⟨page, n, heq, hmem, -, hn, -, -⟩ := h.poll_spec
          have hgot : (f.step .poll).got = f.got ++ page := by
            rw [heq]
            exact (List.append_assoc _ _ _).symm
          refine ih h.poll ?_ (by rw [heq]; exact hle.trans hn) hmore'
          rw [hgot]
          intro hin
          rcases List.mem_append.mp hin with hin | hin
          · exact hnot hin
          · exact absurd (hmem e hin).2.2 (by omega)
      | reconnect arrived =>
          exact absurd (hmore _ List.mem_cons_self) (by simp [FeedStep.isReconnect])

theorem Feed.Ordered.run {f : Feed} (h : f.Ordered) (steps : List FeedStep) :
    (run Feed.step f steps).Ordered :=
  Reachable.invariant ⟨steps, rfl⟩ h fun _ st hf => hf.step st

theorem Feed.NoneLost.delivers {f : Feed} (h : f.Ordered) (hn : f.NoneLost) : Delivers f := by
  intro more hmore e he hw hpolls
  refine List.count_eq_one_of_mem (h.run more).nodup (h.reaches he hw more hmore ?_)
  exact (hn e he hw).imp_right fun hlt => ⟨hlt, by omega⟩

theorem Feed.step_delivers_iff {f : Feed} (h : f.Ordered) (hn : f.NoneLost) (st : FeedStep) :
    Delivers (f.step st) ↔ CommitsAhead f st := by
  refine ⟨fun hd => ?_, fun hst => (hn.step h hst).delivers (h.step st)⟩
  cases st with
  | poll => trivial
  | reconnect arrived => trivial
  | write st =>
      cases st with
      | record tx fields => trivial
      | rollback tx => trivial
      | commit tx =>
          intro e he hw
          by_contra! hle
          have hnot : e ∉ f.got := fun hin => h.rows.apart tx e he e (h.visible e hin).1 rfl
          have hpolls : ∀ st ∈ List.replicate e.workspaceEventId FeedStep.poll,
              st.isReconnect = false := by
            intro st hst
            rw [List.eq_of_mem_replicate hst]
            rfl
          have hmiss := (h.write (.commit tx)).misses hnot hle _ hpolls
          have hone := hd _ hpolls e (List.mem_append_right _ he) hw
            (by rw [List.countP_replicate]; simp [FeedStep.isPoll])
          rw [List.count_eq_zero_of_not_mem hmiss] at hone
          cases hone

/-! ## Whole runs -/

theorem openFeed_spec {t : EventTable} {w uid lastEventId : Nat} {f : Feed} (h : t.WellFormed)
    (hopen : openFeed t w uid lastEventId = .ok f) : f.Ordered ∧ f.NoneLost := by
  unfold openFeed streamWorkspaceEvents assertWorkspaceOwner at hopen
  split_ifs at hopen with howner
  · obtain rfl := Except.ok.inj hopen
    have hheld : ∀ {e : WorkspaceEvent}, e ∈ (t.committed.filter fun e =>
        e.workspaceId = w ∧ e.workspaceEventId ≤ lastEventId) ++ [] ↔
        e ∈ t.committed ∧ e.workspaceId = w ∧ e.workspaceEventId ≤ lastEventId := by
      simp
    refine ⟨⟨h, rfl, howner, ?_, ?_, ?_, List.Pairwise.nil, ?_, ?_⟩, ?_⟩
    · intro e he
      have he' := hheld.mp he
      exact ⟨he'.1, he'.2.1⟩
    · intro e he
      exact (hheld.mp he).2.2
    · have hnodup : t.committed.Nodup := List.Nodup.of_map _ h.committed_nodup
      simpa [Feed.got] using hnodup.filter _
    · intro e _ e' he'
      cases he'
    · intro e he
      cases he
    · intro e he hw
      by_cases hle : e.workspaceEventId ≤ lastEventId
      · exact .inl (hheld.mpr ⟨he, hw, hle⟩)
      · exact .inr (not_le.mp hle)
  · cases hopen

theorem Feed.Ordered.always_iff {f : Feed} (hord : f.Ordered) (hnone : f.NoneLost)
    (steps : List FeedStep) :
    Always Feed.step Delivers f steps ↔ Along Feed.step CommitsAhead f steps := by
  refine always_iff_along (I := fun f => f.Ordered ∧ f.NoneLost) ⟨hord, hnone⟩ ?_
    (hnone.delivers hord) ?_
  · exact fun f st hf hst => ⟨hf.1.step st, hf.2.step hf.1 hst⟩
  · exact fun f st hf _ => f.step_delivers_iff hf.1 hf.2 st

/-- Whatever the writers did before the connection, every state of a run of writers, polls
and reconnects delivers every visible event exactly when every commit of the run is ahead
of the cursor. -/
theorem delivers_always_iff (workspaces : List (Nat × Nat)) (before : List TableStep)
    (w uid lastEventId : Nat) {f : Feed}
    (hopen : openFeed (run EventTable.step (.init workspaces) before) w uid lastEventId = .ok f)
    (steps : List FeedStep) :
    Always Feed.step Delivers f steps ↔ Along Feed.step CommitsAhead f steps := by
  obtain ⟨hord, hnone⟩ := openFeed_spec (EventTable.wellFormed_run workspaces before) hopen
  exact hord.always_iff hnone steps

/-- What came after `held` came in the order of the ids, over all connections. -/
structure Feed.InOrder (held : List WorkspaceEvent) (f : Feed) : Prop where
  ordered : f.Ordered
  since : ∃ old, f.received = held ++ old ∧
    (old ++ f.stream.sent).Pairwise (fun a b => a.workspaceEventId < b.workspaceEventId) ∧
    ∀ e ∈ held, ∀ e' ∈ old ++ f.stream.sent, e.workspaceEventId < e'.workspaceEventId

theorem Feed.InOrder.step {held : List WorkspaceEvent} {f : Feed} (h : f.InOrder held)
    (st : FeedStep) : (f.step st).InOrder held := by
  obtain ⟨old, hreceived, hsorted, hafter⟩ := h.since
  refine ⟨h.ordered.step st, ?_⟩
  cases st with
  | write st => exact ⟨old, hreceived, hsorted, hafter⟩
  | poll =>
      obtain ⟨page, n, heq, hmem, hpage, -⟩ := h.ordered.poll_spec
      have habove : ∀ e ∈ f.got, ∀ e' ∈ page, e.workspaceEventId < e'.workspaceEventId :=
        fun e he e' he' => (h.ordered.below e he).trans_lt (hmem e' he').2.2
      have hgot : f.got = held ++ (old ++ f.stream.sent) := by
        rw [Feed.got, hreceived, List.append_assoc]
      rw [heq]
      refine ⟨old, hreceived, ?_, fun e he e' he' => ?_⟩
      · rw [← List.append_assoc]
        refine List.pairwise_append.mpr ⟨hsorted, hpage, fun e he e' he' => habove e ?_ e' he'⟩
        exact hgot ▸ List.mem_append_right _ he
      · rw [← List.append_assoc] at he'
        rcases List.mem_append.mp he' with he' | he'
        · exact hafter e he e' he'
        · exact habove e (hgot ▸ List.mem_append_left _ he) e' he'
  | reconnect arrived =>
      have hsub : (old ++ f.stream.sent.take arrived).Sublist (old ++ f.stream.sent) :=
        List.Sublist.append_left (List.take_sublist _ _) _
      rw [h.ordered.reconnect_eq arrived]
      refine ⟨old ++ f.stream.sent.take arrived, ?_, ?_, fun e he e' he' => ?_⟩
      · rw [hreceived, List.append_assoc]
      · simpa using hsorted.sublist hsub
      · exact hafter e he e' (hsub.subset (by simpa using he'))

theorem Feed.Ordered.step_workspaceId {f : Feed} (h : f.Ordered) (st : FeedStep) :
    (f.step st).stream.workspaceId = f.stream.workspaceId := by
  cases st with
  | write st => rfl
  | poll =>
      obtain ⟨page, n, heq, -⟩ := h.poll_spec
      rw [heq]
  | reconnect arrived => rw [h.reconnect_eq arrived]

theorem openFeed_fresh {t : EventTable} {w uid lastEventId : Nat} {f : Feed}
    (hopen : openFeed t w uid lastEventId = .ok f) :
    t.workspaces.lookup w = some uid ∧ f.stream.sent = [] ∧ f.stream.workspaceId = w := by
  unfold openFeed streamWorkspaceEvents assertWorkspaceOwner at hopen
  split_ifs at hopen with howner
  · obtain rfl := Except.ok.inj hopen
    exact ⟨howner, rfl, rfl⟩
  · cases hopen

/-- **Events come once, in order, and from the owner's workspace.** Whatever the order in which
writers commit, and however often the connection breaks: all that a client gets after what it held
are visible rows of a workspace that its user owns, none of them twice, in the order of their ids,
and after everything it held. -/
theorem stream_in_order (workspaces : List (Nat × Nat)) (before : List TableStep)
    (w uid lastEventId : Nat) {f : Feed}
    (hopen : openFeed (run EventTable.step (.init workspaces) before) w uid lastEventId = .ok f)
    (steps : List FeedStep) :
    workspaces.lookup w = some uid ∧
      ∃ events, (run Feed.step f steps).got = f.received ++ events ∧
        (∀ e ∈ events, e ∈ (run Feed.step f steps).table.committed ∧ e.workspaceId = w) ∧
        events.Pairwise (fun a b => a.workspaceEventId < b.workspaceEventId) ∧
        ∀ e ∈ f.received, ∀ e' ∈ events, e.workspaceEventId < e'.workspaceEventId := by
  obtain ⟨hord, -⟩ := openFeed_spec (EventTable.wellFormed_run workspaces before) hopen
  obtain ⟨hlookup, hsent, hw⟩ := openFeed_fresh hopen
  have howner : (run EventTable.step (.init workspaces) before).workspaces = workspaces :=
    Reachable.invariant (Q := fun t => t.workspaces = workspaces) ⟨before, rfl⟩ rfl
      fun t st h => (EventTable.step_workspaces t st).trans h
  refine ⟨howner ▸ hlookup, ?_⟩
  have hstart : f.InOrder f.received :=
    ⟨hord, [], (List.append_nil _).symm, by simp [hsent], by simp [hsent]⟩
  obtain ⟨⟨hordered, old, hreceived, hsorted, hafter⟩, hw'⟩ := Reachable.invariant
    (Q := fun g => Feed.InOrder f.received g ∧ g.stream.workspaceId = w) ⟨steps, rfl⟩ ⟨hstart, hw⟩
    fun g st hg => ⟨hg.1.step st, (hg.1.ordered.step_workspaceId st).trans hg.2⟩
  have hgot : (run Feed.step f steps).got =
      f.received ++ (old ++ (run Feed.step f steps).stream.sent) := by
    rw [Feed.got, hreceived, List.append_assoc]
  refine ⟨_, hgot, fun e he => ?_, hsorted, hafter⟩
  have hvisible := hordered.visible e (hgot ▸ List.mem_append_right _ he)
  exact ⟨hvisible.1, hvisible.2.trans hw'⟩

/-- The stream of workspace 1, of user 7, opened before any event. -/
def sampleFeed : Feed where
  table := .init [(1, 7)]
  stream := { workspaceId := 1, ownerUserId := 7, lastId := 0, sent := [], ended := false }
  received := []

/-- The worker (transaction 1) records that its job runs and the API (transaction 2) that
an intent is queued; the given transaction commits first and its event is polled. -/
def twoWriters (first second : Nat) : List FeedStep :=
  [.write (.record 1 { workspaceId := 1, eventType := "controlplane.job_running" }),
    .write (.record 2 { workspaceId := 1, eventType := "controlplane.intent_queued" }),
    .write (.commit first), .poll, .reconnect 1, .write (.commit second), .poll]

/-- Committed in the order of their ids, both events arrive. -/
theorem ordered_commits_deliver : Always Feed.step Delivers sampleFeed (twoWriters 1 2) :=
  (delivers_always_iff [(1, 7)] [] 1 7 0 rfl _).mpr (by decide)

/-- The second event arrives alone when it is committed first. -/
theorem second_writer_in_order :
    [(1, 7)].lookup 1 = some 7 ∧
      ∃ events, (run Feed.step sampleFeed (twoWriters 2 1)).got = sampleFeed.received ++ events ∧
        (∀ e ∈ events, e ∈ (run Feed.step sampleFeed (twoWriters 2 1)).table.committed ∧
          e.workspaceId = 1) ∧
        events.Pairwise (fun a b => a.workspaceEventId < b.workspaceEventId) ∧
        ∀ e ∈ sampleFeed.received, ∀ e' ∈ events, e.workspaceEventId < e'.workspaceEventId :=
  stream_in_order [(1, 7)] [] 1 7 0 rfl (twoWriters 2 1)

/-- The worker's event has the smaller id and is committed last: no poll sends it. -/
theorem late_commit_is_lost : ¬ Always Feed.step Delivers sampleFeed (twoWriters 2 1) := by
  have hopen : openFeed (run EventTable.step (.init [(1, 7)]) []) 1 7 0 = .ok sampleFeed := rfl
  obtain ⟨hord, hnone⟩ := openFeed_spec (EventTable.wellFormed_run [(1, 7)] []) hopen
  rw [hord.always_iff hnone]
  decide

end Devnest
