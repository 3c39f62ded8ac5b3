import StegoLab.Workflow.EventStreamProperties

/-!
# What a browser sees over a whole run

Over all its connections together the browser receives one reset and then the journal from there on,
without a gap and without a repetition. Whatever else it merges, it takes no job back, and once the
stream has caught up its list holds every saved job as it is stored.
-/

namespace StegoLab

open CanonicalJson Relation Transaction

variable {fingerprint : Json → String} {locale : Locale} {originals : List JobSnapshot}
  {store store' : WorkflowStore} {job : JobSnapshot} {s t : EventSystem} {e : StreamEvent}

/-! ### Over whole runs -/

/-- The message that an event hands to the browser. -/
def StreamEvent.message : StreamEvent → Option StreamMessage
  | .receive message _ => some message
  | _ => none

/-- The messages of all connections in the order of their arrival. -/
def received (events : List StreamEvent) : List StreamMessage :=
  events.filterMap StreamEvent.message

lemma received_snoc (events : List StreamEvent) (e : StreamEvent) :
    received (events ++ [e]) = received events ++ e.message.toList := by
  unfold received
  rw [List.filterMap_append]
  cases hmessage : e.message <;> simp [hmessage]

/-! ### A browser that watches a download -/

/-- Times written as numbers, and an order of texts by their lengths. -/
def plain_locale : Locale where
  isoformat time := toString time
  localeCompare a b := a.length - b.length

lemma started_reachable : Reachable (fun _ => "f") started :=
  ⟨[.start working false], .cons (.start rfl rfl rfl rfl) .nil⟩

/-- A download is started while the browser watches; the first page brings it. -/
lemma download_watched : ∃ events t,
    Observes plain_locale (fun _ => "f") [] started events t ∧ (received events).length = 2 ∧
      t.connection = some ⟨.following (1 : ℕ), []⟩ ∧ t.service = with_fetch := by
  refine ⟨_, _, ⟨started_reachable, .cons (.connect rfl) (.cons
    (show StreamStep _ _ _ _ (.check_cursor true) _ from .check_cursor rfl rfl) (.cons
    (show StreamStep _ _ _ _ (.send_reset working true) _ from .send_reset rfl rfl) (.cons
    (show StreamStep _ _ _ _ (.receive _ true) _ from .receive rfl) (.cons
    (show StreamStep _ _ _ _ (.service (.submit_fetch working none "1" archive_request)) _ from
      .service (.submit_fetch rfl)) (.cons
    (show StreamStep _ _ _ _ (.send_page true) _ from .send_page rfl rfl) (.cons
    (show StreamStep _ _ _ _ (.receive _ true) _ from .receive rfl) .nil))))))⟩, rfl, rfl, rfl⟩

lemma with_fetch_reachable : Reachable (fun _ => "f") with_fetch := by
  obtain ⟨events, hrun⟩ := started_reachable
  have hfetch : Step (fun _ => "f") started (.submit_fetch working none "1" archive_request)
      with_fetch := .submit_fetch rfl
  exact ⟨_, hrun.snoc hfetch⟩

/-! ### What is received -/

/-- One reset, and the journal from there to the last identifier. -/
def Delivered (store : WorkflowStore) (last : Option ℤ) (messages : List StreamMessage) : Prop :=
  last = none ∧ messages = [] ∨
    ∃ (first number : ℕ) (items : List JobSnapshot), last = some (number : ℤ) ∧ first ≤ number ∧
      number ≤ store.events.length ∧
        messages = .reset first items :: (Log.slice store.events first number).map .job

lemma Delivered.mono {last : Option ℤ} {messages : List StreamMessage}
    (h : Delivered store last messages) (hpublished : ReflTransGen Publishes store store') :
    Delivered store' last messages := by
  rcases h with hnothing | ⟨first, number, items, hlast, hfirst, hnumber, hmessages⟩
  · exact Or.inl hnothing
  · have hevents := prefix_events hpublished
    refine Or.inr ⟨first, number, items, hlast, hfirst, hnumber.trans hevents.length_le, ?_⟩
    rw [Log.slice_of_prefix hevents hnumber]
    exact hmessages

lemma delivered_receive {stream : EventStream} {message : StreamMessage}
    {sent messages : List StreamMessage} (h : InStep originals s)
    (hconnection : s.connection = some ⟨stream, message :: sent⟩)
    (hdelivered : Delivered s.service.store s.browser.last_event_id messages) :
    Delivered s.service.store (some message.id) (messages ++ [message]) := by
  have hconnected := h.connected _ hconnection
  cases stream with
  | opening raw => exact absurd hconnected.2 (by simp)
  | resetting => exact absurd hconnected.2 (by simp)
  | following cursor =>
    have hfollows : Follows originals s.service.store s.browser.last_event_id (message :: sent)
        cursor := hconnected
    generalize s.browser.last_event_id = last at hfollows hdelivered
    cases hfollows with
    | @job position event _ _ hevent hrest =>
      rcases hdelivered with ⟨hnone, -⟩ | ⟨first, number, items, hlast, hfirst, hnumber, rfl⟩
      · exact absurd hnone (by simp)
      · obtain rfl : position = number := by exact_mod_cast Option.some_inj.mp hlast
        have hlength := (List.getElem?_eq_some_iff.mp hevent).1
        refine Or.inr ⟨first, position + 1, items, ?_, by omega, hlength, ?_⟩
        · show some ((event.event_identifier : ℕ) : ℤ) = _
          rw [(h.journaled.numbered hevent).event_identifier]
        · rw [← Log.slice_append_slice hfirst (Nat.le_succ position), Log.slice_succ hevent,
            List.map_append, List.cons_append]
          rfl
    | @reset number items _ _ hitems hrest =>
      rcases hdelivered with ⟨-, rfl⟩ | ⟨first, number', items', hlast, -⟩
      · refine Or.inr ⟨number, number, items, rfl, le_rfl, hitems.number, ?_⟩
        rw [Log.slice_self]
        rfl
      · exact absurd hlast (by simp)

lemma StreamStep.delivered {messages : List StreamMessage}
    (h : StreamStep locale fingerprint originals s e t) (hs : InStep originals s)
    (hdelivered : Delivered s.service.store s.browser.last_event_id messages) :
    Delivered t.service.store t.browser.last_event_id (messages ++ e.message.toList) := by
  have hsilent : messages ++ [] = messages := List.append_nil messages
  cases h with
  | service h =>
    rw [show (StreamEvent.service _).message = none from rfl, Option.toList_none, hsilent]
    exact hdelivered.mono h.recorded
  | @receive stream message sent shared hconnection =>
    have hmore : Delivered s.service.store (some message.id) (messages ++ [message]) :=
      delivered_receive hs hconnection hdelivered
    exact hmore
  | @accept reply shared hreply =>
    rw [show (StreamEvent.accept _ _).message = none from rfl, Option.toList_none, hsilent]
    cases reply <;> exact hdelivered
  | _ => exact (hsilent.symm ▸ hdelivered)

/-- Over all connections together, whatever gets lost with them, the browser receives the journal
from its first reset on: every event once, in order, up to its last identifier. -/
theorem stream_delivers_journal {service : WorkspaceJobService} {events : List StreamEvent}
    (h : Observes locale fingerprint originals service events t) :
    Delivered t.service.store t.browser.last_event_id (received events) := by
  obtain ⟨hservice, hrun⟩ := h
  have hinvariant : InStep originals t ∧
      Delivered t.service.store t.browser.last_event_id (received ([] ++ events)) := by
    apply hrun.recorded fun past s => InStep originals s ∧
      Delivered s.service.store s.browser.last_event_id (received past)
    · exact ⟨consistent_opened hservice, Or.inl ⟨rfl, rfl⟩⟩
    · intro past s event t hs hstep
      refine ⟨hstep.consistent hs.1, ?_⟩
      rw [received_snoc]
      exact hstep.delivered hs.1 hs.2
  exact hinvariant.2

theorem download_delivered : ∃ (events : List StreamEvent) (t : EventSystem),
    Delivered t.service.store t.browser.last_event_id (received events) ∧
      (received events).length = 2 := by
  obtain ⟨events, t, hobserves, hlength, -, -⟩ := download_watched
  exact ⟨events, t, stream_delivers_journal hobserves, hlength⟩

/-! ### What is listed -/

/-- Nothing that the browser knows of a job gets lost. -/
lemma StreamStep.keeps (h : StreamStep locale fingerprint originals s e t)
    (hs : InStep originals s) (hcovers : Covers s.browser.items job) :
    Covers t.browser.items job := by
  cases h with
  | receive hconnection => exact (merges_set_query_data hs.distinct).keeps job hcovers
  | @accept reply shared hreply =>
    have hmerges := (@consistent_accept locale originals s reply shared hs hreply).1
    exact hmerges.keeps job hcovers
  | _ => exact hcovers

/-- The snapshots of one workflow job are told apart by their revisions. -/
lemma Journaled.eq_of_revision {job' : JobSnapshot} (h : Journaled store)
    (hjob : ∃ event ∈ store.events, event.snapshot = job)
    (hjob' : ∃ event ∈ store.events, event.snapshot = job') (hrevision : job.revision = job'.revision) :
    job = job' := by
  obtain ⟨event, hevent, rfl⟩ := hjob
  obtain ⟨event', hevent', rfl⟩ := hjob'
  obtain ⟨position, hposition, hidentifier, -⟩ := h.mem_events hevent
  obtain ⟨position', hposition', hidentifier', -⟩ := h.mem_events hevent'
  rw [h.revision_eq hevent, h.revision_eq hevent'] at hrevision
  obtain rfl : position = position' := by omega
  obtain rfl := Option.some_inj.mp (hposition.symm.trans hposition')
  rfl

/-- No original job has this identifier. -/
def Workflow (originals : List JobSnapshot) (key : String) : Prop :=
  ∀ job ∈ originals, job.job_identifier ≠ key

lemma Issued.saved (h : Issued originals store job) (hkey : Workflow originals job.job_identifier) :
    ∃ event ∈ store.events, event.snapshot = job :=
  h.resolve_left fun hmem => hkey job hmem rfl

/-- Whatever arrives, in whatever order and however often: the list has one snapshot of each job, and
a snapshot of a workflow job is only ever replaced by one that was saved later. -/
theorem browser_moves_forward {service : WorkspaceJobService} {past events : List StreamEvent}
    (h : Observes locale fingerprint originals service past s)
    (hrun : Run (StreamStep locale fingerprint originals) s events t) :
    (t.browser.items.map JobSnapshot.job_identifier).Nodup ∧
      ∀ job ∈ s.browser.items, Workflow originals job.job_identifier →
        ∃ job' ∈ t.browser.items, job'.job_identifier = job.job_identifier ∧
          (job' = job ∨ job.revision < job'.revision) := by
  have hs : InStep originals s := h.2.invariant (InStep originals)
    (fun hs hstep => hstep.consistent hs) (consistent_opened h.1)
  have ht : InStep originals t := hrun.invariant (InStep originals)
    (fun hs hstep => hstep.consistent hs) hs
  refine ⟨ht.distinct, fun job hjob hworkflow => ?_⟩
  have hcovered : InStep originals t ∧ Covers t.browser.items job ∧
      ReflTransGen Publishes s.service.store t.service.store := by
    apply hrun.invariant (fun u => InStep originals u ∧ Covers u.browser.items job ∧
      ReflTransGen Publishes s.service.store u.service.store)
    · intro u event v hu hstep
      refine ⟨hstep.consistent hu.1, hstep.keeps hu.1 hu.2.1, hu.2.2.trans ?_⟩
      cases hstep with
      | service h => exact h.recorded
      | _ => exact .refl
    · exact ⟨hs, .of_mem hs.distinct hjob, .refl⟩
  obtain ⟨-, ⟨job', hfind, hrevision⟩, hpublished⟩ := hcovered
  have hkey := KeyedList.key_of_find hfind
  have hmem := KeyedList.mem_of_find hfind
  refine ⟨job', hmem, hkey, ?_⟩
  rcases hrevision.eq_or_lt with heq | hlt
  · left
    apply ht.journaled.eq_of_revision _ _ heq.symm
    · exact (ht.issued job' hmem).saved (hkey ▸ hworkflow)
    · exact ((hs.issued job hjob).mono hpublished).saved hworkflow
  · exact Or.inr hlt

/-- A browser reads the list before its stream sends the reset. -/
theorem list_kept : ∃ s t : EventSystem, s.browser.items.length = 1 ∧
    (t.browser.items.map JobSnapshot.job_identifier).Nodup ∧
      ∀ job ∈ s.browser.items, Workflow [] job.job_identifier →
        ∃ job' ∈ t.browser.items, job'.job_identifier = job.job_identifier ∧
          (job' = job ∨ job.revision < job'.revision) := by
  obtain ⟨past, s, hobserves, hitems, events, t, hrun⟩ : ∃ past s,
      Observes plain_locale (fun _ => "f") [] with_fetch past s ∧ s.browser.items.length = 1 ∧
        ∃ events t, Run (StreamStep plain_locale (fun _ => "f") []) s events t :=
    ⟨_, _, ⟨with_fetch_reachable, .cons
      (show StreamStep _ _ _ _ (.read_jobs working) _ from .read_jobs rfl) (.cons
      (show StreamStep _ _ _ _ (.accept _ true) _ from .accept List.mem_cons_self) .nil)⟩, rfl, _, _,
      .cons (.connect rfl) (.cons
        (show StreamStep _ _ _ _ (.check_cursor true) _ from .check_cursor rfl rfl) (.cons
        (show StreamStep _ _ _ _ (.send_reset working true) _ from .send_reset rfl rfl) (.cons
        (show StreamStep _ _ _ _ (.receive _ true) _ from .receive rfl) .nil)))⟩
  exact ⟨s, t, hitems, browser_moves_forward hobserves hrun⟩

/-- A list that knows all events finds every saved job as it is stored. -/
lemma InStep.find_job {key : String} (h : InStep originals s)
    (hcovers : CoversUpTo s.service.store s.service.store.events.length s.browser.items)
    (hworkflow : Workflow originals key) (hjob : s.service.store.job? key = some job) :
    KeyedList.find JobSnapshot.job_identifier s.browser.items key = some job := by
  obtain ⟨last, hlast, rfl, hkey, hlatest⟩ := h.journaled.last_event_of_job hjob
  obtain ⟨position, hposition, -, -⟩ := h.journaled.mem_events hlast
  have hidentifier := (h.journaled.numbered hposition).job_identifier
  obtain ⟨found, hfind, hrevision⟩ := hcovers last hlast (h.journaled.identifier_le hlast)
  rw [← hidentifier, hkey] at hfind
  have hfound : Workflow originals found.job_identifier := by
    rw [KeyedList.key_of_find hfind]
    exact hworkflow
  obtain ⟨event, hevent, rfl⟩ := (h.issued found (KeyedList.mem_of_find hfind)).saved hfound
  obtain ⟨position', hposition', -, -⟩ := h.journaled.mem_events hevent
  have hother : event.job_identifier = key := by
    rw [(h.journaled.numbered hposition').job_identifier]
    exact KeyedList.key_of_find hfind
  have hequal : event.snapshot = last.snapshot := by
    apply h.journaled.eq_of_revision ⟨event, hevent, rfl⟩ ⟨last, hlast, rfl⟩
    apply Nat.le_antisymm _ hrevision
    rw [h.journaled.revision_eq hevent, h.journaled.revision_eq hlast]
    exact hlatest event hevent hother
  rw [hfind, hequal]

/-- The jobs of the workflow store in a list. -/
def workflow_jobs (originals items : List JobSnapshot) : List JobSnapshot :=
  items.filter fun job => ¬ originals.any fun original => original.job_identifier = job.job_identifier

lemma InStep.caught_up (ht : InStep originals t)
    (hconnection : t.connection = some ⟨.following t.service.store.events.length, []⟩) :
    (workflow_jobs originals t.browser.items).Perm
      (workflow_jobs originals t.service.store.sorted_jobs) := by
  have hcovers : CoversUpTo t.service.store t.service.store.events.length t.browser.items := by
    have hfollows : Follows originals t.service.store t.browser.last_event_id []
        (t.service.store.events.length : ℤ) := ht.connected _ hconnection
    generalize hlast : t.browser.last_event_id = last at hfollows
    cases hfollows with
    | nil _ =>
      obtain ⟨number, hnumber, -, hcovers⟩ := ht.position _ hlast
      obtain rfl : t.service.store.events.length = number := by exact_mod_cast hnumber
      exact hcovers
  have hworkflow : ∀ {job : JobSnapshot},
      (¬ originals.any fun original => original.job_identifier = job.job_identifier) →
        Workflow originals job.job_identifier := by
    intro job hany original horiginal heq
    exact hany (List.any_eq_true.mpr ⟨original, horiginal, by simpa using heq⟩)
  unfold workflow_jobs
  rw [List.perm_ext_iff_of_nodup ((ht.distinct.of_map _).filter _)
    ((WorkflowStore.nodup_sorted_jobs.of_map _).filter _)]
  intro job
  rw [List.mem_filter, List.mem_filter, decide_eq_true_eq]
  apply and_congr_left
  intro hany
  rw [WorkflowStore.mem_sorted_jobs]
  constructor
  · intro hjob
    obtain ⟨event, hevent, rfl⟩ := (ht.issued job hjob).saved (hworkflow hany)
    obtain ⟨position, hposition, -, -⟩ := ht.journaled.mem_events hevent
    obtain ⟨stored, hstored⟩ := ht.journaled.job_of_event hevent
    rw [(ht.journaled.numbered hposition).job_identifier] at hstored
    have hfind := ht.find_job hcovers (hworkflow hany) hstored
    have hself := (KeyedList.find_eq_some_iff ht.distinct).mpr ⟨hjob, rfl⟩
    rw [hstored, ← hfind, hself]
  · intro hjob
    exact KeyedList.mem_of_find (ht.find_job hcovers (hworkflow hany) hjob)

/-- When all that was sent has been received and nothing was saved since, the list holds every saved
job as it is stored, and no other workflow job. -/
theorem browser_catches_up {service : WorkspaceJobService} {events : List StreamEvent} {cursor : ℕ}
    (h : Observes locale fingerprint originals service events t)
    (hconnection : t.connection = some ⟨.following cursor, []⟩)
    (hcursor : t.service.store.latest_event true = .ok cursor) :
    (workflow_jobs originals t.browser.items).Perm
      (workflow_jobs originals t.service.store.sorted_jobs) := by
  have ht : InStep originals t := h.2.invariant (InStep originals)
    (fun hs hstep => hstep.consistent hs) (consistent_opened h.1)
  apply ht.caught_up
  obtain ⟨-, -, hlatest⟩ := bind_eq_ok.mp hcursor
  obtain rfl := pure_eq_ok.mp hlatest
  rw [← ht.journaled.maximum_event]
  exact hconnection

theorem download_listed : ∃ t : EventSystem, t.service = with_fetch ∧
    (workflow_jobs [] t.browser.items).Perm (workflow_jobs [] t.service.store.sorted_jobs) := by
  obtain ⟨events, t, hobserves, -, hconnection, hservice⟩ := download_watched
  refine ⟨t, hservice, browser_catches_up hobserves hconnection ?_⟩
  rw [hservice]
  rfl

/-! ### Catching up -/

def StreamEvent.is_page : StreamEvent → Bool
  | .send_page _ => true
  | _ => false

/-- How many pages were sent. -/
def pages (events : List StreamEvent) : ℕ :=
  events.countP StreamEvent.is_page

lemma pages_append (events events' : List StreamEvent) :
    pages (events ++ events') = pages events + pages events' :=
  List.countP_append

lemma send_page_eq {service : WorkspaceJobService} (h : service.persistence_failed = false)
    (cursor : ℤ) : send_page true cursor service
      = (.ok ((service.store.events_after cursor).foldl
          (fun _ event => (event.event_identifier : ℤ)) cursor, service.store.events_after cursor),
        service) := by
  obtain ⟨store, closing, active, ownership, persistence_failed, inference, cleanup, thread, closer⟩
    := service
  obtain rfl : persistence_failed = false := h
  rfl

lemma send_reset_eq (service : WorkspaceJobService) :
    send_reset working true (.ok originals) service
      = (.ok (service.store.maximum_event, reset_items service.store.sorted_jobs originals),
        service) :=
  rfl

/-- Everything that was sent can arrive. -/
lemma receives_all {stream : EventStream} {sent : List StreamMessage}
    (hconnection : s.connection = some ⟨stream, sent⟩) :
    ∃ events t, Run (StreamStep locale fingerprint originals) s events t ∧
      t.service = s.service ∧ t.connection = some ⟨stream, []⟩ ∧ pages events = 0 := by
  induction sent generalizing s with
  | nil => exact ⟨[], s, .nil, rfl, hconnection, rfl⟩
  | cons message sent ih =>
    obtain ⟨events, t, hrun, hservice, hend, hpages⟩ := @ih
      { s with connection := some ⟨stream, sent⟩, browser := s.browser.receive locale true message }
      rfl
    exact ⟨_, t, .cons (.receive hconnection) hrun, hservice, hend, hpages⟩

/-- One page is sent, and arrives. -/
lemma page_arrives {position : ℕ} (hs : InStep originals s)
    (hconnection : s.connection = some ⟨.following position, []⟩)
    (hstorage : s.service.persistence_failed = false)
    (hposition : position ≤ s.service.store.events.length) :
    ∃ events t, Run (StreamStep locale fingerprint originals) s events t ∧
      t.service = s.service ∧
      t.connection
        = some ⟨.following (min (position + 200) s.service.store.events.length : ℕ), []⟩ ∧
      pages events = 1 := by
  have hpage := hs.journaled.events_after position
  rw [Log.take_drop_eq_slice, max_eq_right hposition] at hpage
  obtain ⟨u, hstep, hsame, hsent⟩ : ∃ u,
      StreamStep locale fingerprint originals s (.send_page true) u ∧ u.service = s.service ∧
        ∃ sent, u.connection
          = some ⟨.following (min (position + 200) s.service.store.events.length : ℕ), sent⟩ := by
    refine ⟨_, .send_page hconnection (send_page_eq hstorage position), rfl,
      (s.service.store.events_after position).map .job, ?_⟩
    rw [hpage, hs.journaled.cursor_after_slice (by omega) (by omega)]
    rfl
  obtain ⟨sent, hsent⟩ := hsent
  obtain ⟨events, t, hrun, hservice, hreceived, hpages⟩ :=
    @receives_all fingerprint locale originals _ _ _ hsent
  refine ⟨_, t, .cons hstep hrun, hservice.trans hsame, hreceived, ?_⟩
  show pages ([.send_page true] ++ events) = 1
  rw [pages_append, hpages]
  rfl

/-- One page after another leads to the end of the journal. -/
lemma pages_catch_up {position : ℕ} (hs : InStep originals s)
    (hconnection : s.connection = some ⟨.following position, []⟩)
    (hstorage : s.service.persistence_failed = false)
    (hposition : position ≤ s.service.store.events.length) :
    ∃ events t, Run (StreamStep locale fingerprint originals) s events t ∧
      t.service = s.service ∧
      t.connection = some ⟨.following s.service.store.events.length, []⟩ ∧
      200 * pages events ≤ s.service.store.events.length - position + 199 := by
  induction hlag : s.service.store.events.length - position using Nat.strong_induction_on
    generalizing s position with
  | _ lag ih =>
    by_cases hend : position = s.service.store.events.length
    · exact ⟨[], s, .nil, rfl, hend ▸ hconnection, by simp [pages]⟩
    · obtain ⟨events, t, hrun, hservice, hreceived, hpage⟩ :=
        @page_arrives fingerprint locale _ _ _ hs hconnection hstorage hposition
      have ht : InStep originals t := hrun.invariant (InStep originals)
        (fun hs hstep => hstep.consistent hs) hs
      rw [← hservice] at hreceived hstorage hlag hend hposition ⊢
      obtain ⟨events', u, hrun', hservice', hcaught, hpages⟩ :=
        ih _ (by omega) ht hreceived hstorage (by omega) rfl
      refine ⟨events ++ events', u, hrun.append hrun', hservice', hcaught, ?_⟩
      rw [pages_append, hpage]
      omega

/-- A cursor within the journal is taken up. -/
lemma check_cursor_eq {number : ℕ} (h : Journaled store) (hnumber : number ≤ store.events.length) :
    check_cursor true (some (number : ℤ)) store = .ok (.following number) := by
  have hlatest : store.latest_event true = .ok store.events.length := by
    rw [← h.maximum_event]
    rfl
  unfold check_cursor
  dsimp only [Option.getD_some]
  rw [if_neg (by omega), hlatest]
  show Except.ok (if (store.events.length : ℤ) < number then EventStream.resetting
    else .following number) = _
  rw [if_neg (by omega)]

/-- A new connection goes on where the browser is, or starts with a reset. -/
lemma stream_opens (hs : InStep originals s) :
    ∃ events t, Run (StreamStep locale fingerprint originals) s events t ∧
      t.service = s.service ∧ pages events = 0 ∧ ∃ position : ℕ,
        position ≤ s.service.store.events.length ∧
        (s.browser.last_event_id.getD 0).toNat ≤ position ∧
        t.connection = some ⟨.following position, []⟩ := by
  have hclosed : StreamStep locale fingerprint originals s .disconnect
      { s with connection := none } := .disconnect
  have hopened : StreamStep locale fingerprint originals { s with connection := none } .connect
      { s with connection := some ⟨.opening s.browser.last_event_id, []⟩ } := .connect rfl
  cases hlast : s.browser.last_event_id with
  | some last =>
    obtain ⟨number, rfl, hnumber, -⟩ := hs.position last hlast
    rw [hlast] at hopened
    refine ⟨_, _, .cons hclosed (.cons hopened (.cons (.check_cursor rfl
      (check_cursor_eq hs.journaled hnumber)) .nil)), rfl, rfl, number, hnumber, le_rfl, rfl⟩
  | none =>
    rw [hlast] at hopened
    refine ⟨_, _, .cons hclosed (.cons hopened (.cons (.check_cursor rfl
      (show check_cursor true none s.service.store = .ok .resetting from rfl))
        (.cons (.send_reset rfl (send_reset_eq s.service)) (.cons
          (show StreamStep _ _ _ _ (.receive _ true) _ from .receive rfl) .nil)))), rfl, rfl,
      s.service.store.maximum_event, ?_, Nat.zero_le _, rfl⟩
    rw [hs.journaled.maximum_event]

/-- No browser is ever stuck: while the storage works, from every state a new connection leads to the
stored jobs, within as many pages as the browser is behind. -/
theorem stream_can_catch_up {service : WorkspaceJobService} {past : List StreamEvent}
    (h : Observes locale fingerprint originals service past s)
    (hstorage : s.service.persistence_failed = false) :
    ∃ events t, Run (StreamStep locale fingerprint originals) s events t ∧
      t.service = s.service ∧
      (workflow_jobs originals t.browser.items).Perm
        (workflow_jobs originals t.service.store.sorted_jobs) ∧
      200 * pages events
        ≤ s.service.store.events.length - (s.browser.last_event_id.getD 0).toNat + 199 := by
  have hs : InStep originals s := h.2.invariant (InStep originals)
    (fun hs hstep => hstep.consistent hs) (consistent_opened h.1)
  obtain ⟨events, u, hrun, hservice, hnone, position, hposition, hbehind, hconnection⟩ :=
    @stream_opens fingerprint locale originals s hs
  have hu : InStep originals u := hrun.invariant (InStep originals)
    (fun hs hstep => hstep.consistent hs) hs
  rw [← hservice] at hposition hstorage
  obtain ⟨events', t, hrun', hservice', hconnection', hpages⟩ :=
    @pages_catch_up fingerprint locale originals u position hu hconnection hstorage hposition
  have ht : InStep originals t := hrun'.invariant (InStep originals)
    (fun hs hstep => hstep.consistent hs) hu
  refine ⟨events ++ events', t, hrun.append hrun', hservice'.trans hservice, ?_, ?_⟩
  · apply ht.caught_up
    rw [hconnection', hservice']
  · rw [pages_append, hnone, ← hservice]
    omega

theorem download_catches_up : ∃ (events : List StreamEvent) (t : EventSystem),
    Run (StreamStep plain_locale (fun _ => "f") []) { service := with_fetch } events t ∧
      t.service = with_fetch ∧
      (workflow_jobs [] t.browser.items).Perm (workflow_jobs [] t.service.store.sorted_jobs) ∧
      200 * pages events ≤ 1 - 0 + 199 :=
  stream_can_catch_up ⟨with_fetch_reachable, .nil⟩ rfl

end StegoLab
