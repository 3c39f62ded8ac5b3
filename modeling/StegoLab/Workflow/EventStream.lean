import StegoLab.Library.KeyedLists
import StegoLab.Workflow.System

/-!
# The event stream and the list of jobs in the browser

The server sends what happened to the jobs over one connection at a time; the browser merges it with
the lists that it reads and with the answers to its requests. A connection can end at any moment, and
then everything that was sent over it and not received is lost.
-/

namespace StegoLab

open CanonicalJson

/-! ### Reading the events -/

namespace WorkflowStore

/-- The rows of `events`: a bounded page of what follows a cursor. -/
def events_after (store : WorkflowStore) (after : ℤ) : List JobEvent :=
  ((store.events.filter fun event => after < event.event_identifier).insertionSort
    fun a b => a.event_identifier ≤ b.event_identifier).take 200

/-- The maximum of the identifiers, or zero. -/
def maximum_event (store : WorkflowStore) : ℕ :=
  (store.events.map JobEvent.event_identifier).foldr max 0

/-- `events`. -/
def read_events (readable : Bool) (store : WorkflowStore) (after : ℤ) :
    Except Raised (List JobEvent) := do
  raise_if (readable = false) (.application StorageFailure)
  return store.events_after after

/-- `latest_event`. -/
def latest_event (readable : Bool) (store : WorkflowStore) : Except Raised ℕ := do
  raise_if (readable = false) (.application StorageFailure)
  return store.maximum_event

end WorkflowStore

/-! ### The stream -/

/-- The messages of the stream. The identifier of a message is where a later connection goes on. -/
inductive StreamMessage where
  | reset (cursor : ℤ) (items : List JobSnapshot)
  | job (event : JobEvent)

def StreamMessage.id : StreamMessage → ℤ
  | .reset cursor _ => cursor
  | .job event => event.event_identifier

/-- Where `event_stream` is; the header of the request is a number or of no use. -/
inductive EventStream where
  | opening (raw : Option ℤ)
  | resetting
  | following (cursor : ℤ)

/-- The jobs of a reset: the workflow jobs, and the original ones under other identifiers. -/
def reset_items (jobs originals : List JobSnapshot) : List JobSnapshot :=
  originals.foldl (KeyedList.set_default JobSnapshot.job_identifier)
    (KeyedList.of_list JobSnapshot.job_identifier jobs)

/-- The comparison of the cursor with the log. -/
def check_cursor (readable : Bool) (raw : Option ℤ) (store : WorkflowStore) :
    Except Raised EventStream := do
  let cursor := raw.getD (-1)
  if cursor < 0 then return .resetting
  else
    let latest ← store.latest_event readable
    return if latest < cursor then .resetting else .following cursor

section Sending

variable (surroundings : Surroundings) (readable : Bool)

/-- The reset, under the service lock. -/
def send_reset (originals : Except Raised (List JobSnapshot)) : Section (ℕ × List JobSnapshot) := do
  let service ← Transaction.read
  let cursor ← service.store.latest_event readable
  let jobs ← list_jobs surroundings
  let originals ← originals
  return (cursor, reset_items jobs originals)

/-- One round of the loop: the cursor moves behind the page. -/
def send_page (cursor : ℤ) : Section (ℤ × List JobEvent) := do
  require_storage
  let service ← Transaction.read
  let events ← service.store.read_events readable cursor
  return (events.foldl (fun _ event => (event.event_identifier : ℤ)) cursor, events)

/-- `GET /jobs`: the original jobs, and the workflow jobs in their place or behind them. -/
def read_jobs (originals : Except Raised (List JobSnapshot)) : Section (List JobSnapshot) := do
  let originals ← originals
  let jobs ← list_jobs surroundings
  let snapshots := jobs.foldl (KeyedList.set JobSnapshot.job_identifier)
    (KeyedList.of_list JobSnapshot.job_identifier originals)
  return snapshots.insertionSort fun a b => a.created_at ≤ b.created_at

end Sending

/-! ### The browser -/

/-- How the browser writes and compares times. -/
structure Locale where
  isoformat : ℕ → String
  localeCompare : String → String → ℤ

/-- The event that a snapshot was saved with; older records have none. -/
def JobSnapshot.revision (job : JobSnapshot) : ℕ :=
  job.latest_event_identifier.getD 0

variable (locale : Locale)

def is_newer (incoming current : JobSnapshot) : Bool :=
  if incoming.revision ≠ current.revision then current.revision < incoming.revision
  else locale.isoformat current.updated_at < locale.isoformat incoming.updated_at

def merge_job_lists (previous : Option (List JobSnapshot)) (incoming : List JobSnapshot) :
    List JobSnapshot :=
  let by_identifier := KeyedList.of_list JobSnapshot.job_identifier (previous.getD [])
  (KeyedList.absorb_all JobSnapshot.job_identifier (is_newer locale) by_identifier incoming).mergeSort
    fun first second =>
      locale.localeCompare (locale.isoformat first.created_at) (locale.isoformat second.created_at) ≤ 0

/-- `structuralSharing` of the query: a first list is taken as it is. -/
def structural_sharing (previous : Option (List JobSnapshot)) (incoming : List JobSnapshot) :
    List JobSnapshot :=
  match previous with
  | none => incoming
  | some _ => merge_job_lists locale previous incoming

/-- `setQueryData` with the merged list, which may share its structure with the one before. -/
def set_query_data (shared : Bool) (previous : Option (List JobSnapshot))
    (incoming : List JobSnapshot) : List JobSnapshot :=
  let merged := merge_job_lists locale previous incoming
  if shared then structural_sharing locale previous merged else merged

/-- The answers to requests: a list of jobs, or the job that a change returns. -/
inductive Reply where
  | jobs (items : List JobSnapshot)
  | job (snapshot : JobSnapshot)

/-- The cached list of jobs, and the last identifier that the event source has received. -/
structure Browser where
  jobs : Option (List JobSnapshot) := none
  last_event_id : Option ℤ := none

namespace Browser

/-- `accept_reset` and `accept_job`. -/
def receive (shared : Bool) (browser : Browser) (message : StreamMessage) : Browser where
  jobs := some <| set_query_data locale shared browser.jobs <|
    match message with
    | .reset _ items => items
    | .job event => [event.snapshot]
  last_event_id := some message.id

/-- The end of a request. -/
def accept (shared : Bool) (browser : Browser) : Reply → Browser
  | .jobs items => { browser with jobs := some (structural_sharing locale browser.jobs items) }
  | .job snapshot =>
    { browser with jobs := some (set_query_data locale shared browser.jobs [snapshot]) }

end Browser

/-! ### The system -/

/-- A connection, with what was sent over it and not yet received. -/
structure StreamConnection where
  stream : EventStream
  sent : List StreamMessage := []

/-- The service, one browser, its connection, and the answers to its requests. -/
structure EventSystem where
  service : WorkspaceJobService
  connection : Option StreamConnection := none
  replies : List Reply := []
  browser : Browser := {}

inductive StreamEvent where
  | service (e : Event)
  | connect
  | check_cursor (readable : Bool)
  | send_reset (surroundings : Surroundings) (readable : Bool)
  | send_page (readable : Bool)
  | receive (message : StreamMessage) (shared : Bool)
  | disconnect
  | read_jobs (surroundings : Surroundings)
  | answer (snapshot : JobSnapshot)
  | accept (reply : Reply) (shared : Bool)

variable (fingerprint : Json → String) (originals : List JobSnapshot)

/-- One step of the service, of the stream or of the browser. The database of the original jobs has
no writer. -/
inductive StreamStep : EventSystem → StreamEvent → EventSystem → Prop where
  | service {s : EventSystem} {e : Event} {t : WorkspaceJobService}
      (h : Step fingerprint s.service e t) : StreamStep s (.service e) { s with service := t }
  | connect {s : EventSystem} (hconnection : s.connection = none) :
      StreamStep s .connect
        { s with connection := some { stream := .opening s.browser.last_event_id } }
  | check_cursor {s : EventSystem} {sent : List StreamMessage} {readable : Bool} {raw : Option ℤ}
      {stream : EventStream} (hconnection : s.connection = some ⟨.opening raw, sent⟩)
      (h : check_cursor readable raw s.service.store = .ok stream) :
      StreamStep s (.check_cursor readable) { s with connection := some ⟨stream, sent⟩ }
  | send_reset {s : EventSystem} {sent : List StreamMessage} {surroundings : Surroundings}
      {readable : Bool} {cursor : ℕ} {items : List JobSnapshot} {t : WorkspaceJobService}
      (hconnection : s.connection = some ⟨.resetting, sent⟩)
      (h : send_reset surroundings readable (.ok originals) s.service = (.ok (cursor, items), t)) :
      StreamStep s (.send_reset surroundings readable)
        { s with connection := some ⟨.following cursor, sent ++ [.reset cursor items]⟩ }
  | send_page {s : EventSystem} {sent : List StreamMessage} {readable : Bool} {cursor cursor' : ℤ}
      {events : List JobEvent} {t : WorkspaceJobService}
      (hconnection : s.connection = some ⟨.following cursor, sent⟩)
      (h : send_page readable cursor s.service = (.ok (cursor', events), t)) :
      StreamStep s (.send_page readable)
        { s with connection := some ⟨.following cursor', sent ++ events.map .job⟩ }
  | receive {s : EventSystem} {stream : EventStream} {message : StreamMessage}
      {sent : List StreamMessage} {shared : Bool}
      (hconnection : s.connection = some ⟨stream, message :: sent⟩) :
      StreamStep s (.receive message shared)
        { s with
          connection := some ⟨stream, sent⟩
          browser := s.browser.receive locale shared message }
  -- A failed read, the end of the lifetime of a connection, and a lost network all end it.
  | disconnect {s : EventSystem} : StreamStep s .disconnect { s with connection := none }
  | read_jobs {s : EventSystem} {surroundings : Surroundings} {items : List JobSnapshot}
      {t : WorkspaceJobService}
      (h : read_jobs surroundings (.ok originals) s.service = (.ok items, t)) :
      StreamStep s (.read_jobs surroundings) { s with replies := .jobs items :: s.replies }
  -- A change answers with the snapshot that its section has saved or found.
  | answer {s : EventSystem} {snapshot : JobSnapshot}
      (h : s.service.store.job? snapshot.job_identifier = some snapshot) :
      StreamStep s (.answer snapshot) { s with replies := .job snapshot :: s.replies }
  -- An answer may take any time, and a request may be answered more than once.
  | accept {s : EventSystem} {reply : Reply} {shared : Bool} (h : reply ∈ s.replies) :
      StreamStep s (.accept reply shared)
        { s with browser := s.browser.accept locale shared reply }

/-- The runs of a browser that is opened while the service runs. -/
def Observes (service : WorkspaceJobService) (events : List StreamEvent) (t : EventSystem) : Prop :=
  Reachable fingerprint service ∧
    Run (StreamStep locale fingerprint originals) { service := service } events t

end StegoLab
