import StegoLab.Library.Logs
import StegoLab.Workflow.EventStream
import StegoLab.Workflow.Journal

/-!
# What the browser knows

The messages on their way lead from what the browser has received to the cursor of the stream, and
its list knows every event up to there. Every step of the service, the stream and the browser keeps
this.
-/

namespace StegoLab

open CanonicalJson Relation Transaction

variable {fingerprint : Json → String} {locale : Locale} {originals : List JobSnapshot}
  {store store' : WorkflowStore} {job : JobSnapshot}

/-! ### Pages -/

lemma Journaled.mem_events {event : JobEvent} (h : Journaled store) (hevent : event ∈ store.events) :
    ∃ position, store.events[position]? = some event ∧ event.event_identifier = position + 1 ∧
      position < store.events.length := by
  obtain ⟨position, hposition, hget⟩ := List.mem_iff_getElem.mp hevent
  have hsome := List.getElem?_eq_some_iff.mpr ⟨hposition, hget⟩
  exact ⟨position, hsome, (h.numbered hsome).event_identifier, hposition⟩

lemma Journaled.revision_eq {event : JobEvent} (h : Journaled store)
    (hevent : event ∈ store.events) : event.snapshot.revision = event.event_identifier := by
  obtain ⟨position, hposition, hidentifier, -⟩ := h.mem_events hevent
  unfold JobSnapshot.revision
  rw [(h.numbered hposition).revision, hidentifier]
  rfl

lemma Journaled.identifier_le {event : JobEvent} (h : Journaled store)
    (hevent : event ∈ store.events) : event.event_identifier ≤ store.events.length := by
  obtain ⟨position, -, hidentifier, hposition⟩ := h.mem_events hevent
  omega

lemma Journaled.maximum_event (h : Journaled store) :
    store.maximum_event = store.events.length := by
  unfold WorkflowStore.maximum_event
  apply Nat.le_antisymm
  · have hbound : ∀ identifiers : List ℕ, (∀ identifier ∈ identifiers,
        identifier ≤ store.events.length) → identifiers.foldr max 0 ≤ store.events.length := by
      intro identifiers hall
      induction identifiers with
      | nil => exact Nat.zero_le _
      | cons first rest ih =>
        obtain ⟨hfirst, hrest⟩ := List.forall_mem_cons.mp hall
        exact max_le hfirst (ih hrest)
    apply hbound
    intro identifier hmem
    obtain ⟨event, hevent, rfl⟩ := List.mem_map.mp hmem
    exact h.identifier_le hevent
  · have hreached : ∀ {identifiers : List ℕ} {identifier : ℕ}, identifier ∈ identifiers →
        identifier ≤ identifiers.foldr max 0 := by
      intro identifiers identifier hmem
      induction identifiers with
      | nil => exact absurd hmem List.not_mem_nil
      | cons first rest ih =>
        rcases List.mem_cons.mp hmem with rfl | hrest
        · exact le_max_left _ _
        · exact (ih hrest).trans (le_max_right _ _)
    cases hlast : store.events.getLast? with
    | none => simp [List.getLast?_eq_none_iff.mp hlast]
    | some event =>
      rw [List.getLast?_eq_getElem?] at hlast
      have hidentifier := (h.numbered hlast).event_identifier
      have hposition := (List.getElem?_eq_some_iff.mp hlast).1
      have hmem := List.mem_map_of_mem (f := JobEvent.event_identifier) (List.mem_of_getElem? hlast)
      have hle := hreached hmem
      omega

lemma Journaled.pairwise (h : Journaled store) :
    store.events.Pairwise fun a b => a.event_identifier ≤ b.event_identifier := by
  rw [List.pairwise_iff_getElem]
  intro i j hi hj hij
  rw [(h.numbered (List.getElem?_eq_getElem hi)).event_identifier,
    (h.numbered (List.getElem?_eq_getElem hj)).event_identifier]
  omega

/-- A page is what follows the cursor in the journal. -/
lemma Journaled.events_after (h : Journaled store) (cursor : ℕ) :
    store.events_after cursor = (store.events.drop cursor).take 200 := by
  have hfilter : store.events.filter (fun event => (cursor : ℤ) < event.event_identifier)
      = store.events.drop cursor := by
    conv_lhs => rw [← List.take_append_drop cursor store.events]
    rw [List.filter_append, List.filter_eq_nil_iff.mpr, List.nil_append, List.filter_eq_self]
    · intro event hevent
      obtain ⟨i, hi, rfl⟩ := List.mem_iff_getElem.mp hevent
      rw [List.length_drop] at hi
      rw [List.getElem_drop, (h.numbered (List.getElem?_eq_getElem (by omega))).event_identifier]
      apply decide_eq_true
      omega
    · intro event hevent
      obtain ⟨i, hi, rfl⟩ := List.mem_iff_getElem.mp hevent
      rw [List.length_take] at hi
      rw [List.getElem_take, (h.numbered (List.getElem?_eq_getElem (by omega))).event_identifier]
      intro hafter
      have hlater := of_decide_eq_true hafter
      omega
  unfold WorkflowStore.events_after
  rw [hfilter, List.Pairwise.insertionSort_eq]
  exact h.pairwise.sublist (List.drop_sublist _ _)

/-- The cursor behind a page is its end. -/
lemma Journaled.cursor_after_slice {first number : ℕ} (h : Journaled store)
    (hfirst : first ≤ number) (hnumber : number ≤ store.events.length) :
    (Log.slice store.events first number).foldl
      (fun _ event => (event.event_identifier : ℤ)) first = number := by
  induction hn : number - first generalizing first with
  | zero =>
    obtain rfl : first = number := by omega
    rw [Log.slice_self]
    rfl
  | succ n ih =>
    have hget := List.getElem?_eq_getElem (show first < store.events.length by omega)
    rw [Log.slice_cons (by omega) hget, List.foldl_cons, (h.numbered hget).event_identifier]
    exact ih (by omega) (by omega)

/-! ### Merging -/

lemma is_newer_ranks : KeyedList.Ranks (is_newer locale) JobSnapshot.revision where
  of_newer {item current} h := by
    unfold is_newer at h
    split_ifs at h with hrevision
    · exact (of_decide_eq_true h).le
    · exact Nat.le_of_eq (not_not.mp hrevision).symm
  newer_of_lt {item current} h := by
    unfold is_newer
    rw [if_pos h.ne']
    exact decide_eq_true h

/-- The list holds a snapshot of the job that is as new. -/
abbrev Covers (items : List JobSnapshot) (job : JobSnapshot) : Prop :=
  KeyedList.Covers JobSnapshot.job_identifier JobSnapshot.revision items job

abbrev DistinctJobs (items : List JobSnapshot) : Prop :=
  KeyedList.Distinct JobSnapshot.job_identifier items

section Merging

variable {previous : Option (List JobSnapshot)} {incoming items : List JobSnapshot} {shared : Bool}

/-- What an update of the list does: it loses nothing, and takes in what comes. -/
structure Merges (previous : Option (List JobSnapshot)) (incoming items : List JobSnapshot) : Prop where
  distinct : DistinctJobs items
  origin : ∀ job ∈ items, job ∈ incoming ∨ job ∈ previous.getD []
  keeps : ∀ job, Covers (previous.getD []) job → Covers items job
  takes : ∀ job ∈ incoming, Covers items job

lemma merges_merge_job_lists (hprevious : DistinctJobs (previous.getD [])) :
    Merges previous incoming (merge_job_lists locale previous incoming) := by
  have hdistinct : DistinctJobs (KeyedList.absorb_all JobSnapshot.job_identifier (is_newer locale)
      (KeyedList.of_list JobSnapshot.job_identifier (previous.getD [])) incoming) :=
    KeyedList.distinct_absorb_all KeyedList.distinct_of_list
  have hperm := List.mergeSort_perm (KeyedList.absorb_all JobSnapshot.job_identifier
    (is_newer locale) (KeyedList.of_list JobSnapshot.job_identifier (previous.getD [])) incoming)
    fun first second => locale.localeCompare (locale.isoformat first.created_at)
      (locale.isoformat second.created_at) ≤ 0
  constructor
  · exact (hperm.map _).nodup_iff.mpr hdistinct
  · intro job hjob
    rcases KeyedList.mem_absorb_all (hperm.mem_iff.mp hjob) with hincoming | hbefore
    · exact Or.inl hincoming
    · exact Or.inr (KeyedList.mem_of_list hbefore)
  · intro job hcovers
    obtain ⟨found, hfound, hrevision⟩ := hcovers
    rw [← KeyedList.find_of_list hprevious] at hfound
    have hbefore : Covers _ job := ⟨found, hfound, hrevision⟩
    exact (hbefore.absorb_all is_newer_ranks).perm hdistinct hperm
  · intro job hjob
    exact (KeyedList.covers_absorb_all is_newer_ranks hjob).perm hdistinct hperm

/-- The first list is taken as it is, so it has to be distinct on its own. -/
lemma merges_structural_sharing (hprevious : DistinctJobs (previous.getD []))
    (hincoming : DistinctJobs incoming) :
    Merges previous incoming (structural_sharing locale previous incoming) := by
  cases previous with
  | some items => exact merges_merge_job_lists hprevious
  | none =>
    refine ⟨hincoming, fun job => Or.inl, fun job hcovers => ?_, fun job hjob => ?_⟩
    · obtain ⟨found, hfound, -⟩ := hcovers
      exact absurd hfound (by simp)
    · exact KeyedList.Covers.of_mem hincoming hjob

lemma merges_set_query_data (hprevious : DistinctJobs (previous.getD [])) :
    Merges previous incoming (set_query_data locale shared previous incoming) := by
  have hmerged : Merges previous incoming (merge_job_lists locale previous incoming) :=
    merges_merge_job_lists hprevious
  unfold set_query_data
  dsimp only
  split_ifs
  · have hshared := @merges_structural_sharing locale previous _ hprevious hmerged.distinct
    refine ⟨hshared.distinct, fun job hjob => ?_, hshared.keeps, fun job hjob => ?_⟩
    · rcases hshared.origin job hjob with hnew | hold
      · exact hmerged.origin job hnew
      · exact Or.inr hold
    · obtain ⟨found, hfound, hrevision⟩ := hmerged.takes job hjob
      obtain ⟨found', hfound', hrevision'⟩ := hshared.takes found (KeyedList.mem_of_find hfound)
      rw [KeyedList.key_of_find hfound] at hfound'
      exact ⟨found', hfound', hrevision.trans hrevision'⟩
  · exact hmerged

end Merging

/-! ### Lists of the server -/

/-- The snapshot was saved, or belongs to an original job. -/
def Issued (originals : List JobSnapshot) (store : WorkflowStore) (job : JobSnapshot) : Prop :=
  job ∈ originals ∨ ∃ event ∈ store.events, event.snapshot = job

lemma Issued.mono (h : Issued originals store job)
    (hpublished : ReflTransGen Publishes store store') : Issued originals store' job := by
  rcases h with horiginal | ⟨event, hevent, hsnapshot⟩
  · exact Or.inl horiginal
  · exact Or.inr ⟨event, (prefix_events hpublished).subset hevent, hsnapshot⟩

/-- The list knows all events up to a number. -/
def CoversUpTo (store : WorkflowStore) (number : ℕ) (items : List JobSnapshot) : Prop :=
  ∀ event ∈ store.events, event.event_identifier ≤ number → Covers items event.snapshot

/-- The stored snapshot of a job is the one of its last event. -/
lemma Journaled.last_event_of_job {key : String} (h : Journaled store)
    (hjob : store.job? key = some job) :
    ∃ event ∈ store.events, event.snapshot = job ∧ event.job_identifier = key ∧
      ∀ other ∈ store.events, other.job_identifier = key →
        other.event_identifier ≤ event.event_identifier := by
  rw [h.job key] at hjob
  obtain ⟨past, event, future, hevents, hnoted, hfuture⟩ := latest_eq_some hjob
  unfold JobEvent.of_job at hnoted
  split_ifs at hnoted with hkey
  have hevent : store.events[past.length]? = some event := by
    rw [hevents, List.getElem?_append_right le_rfl, Nat.sub_self]
    rfl
  refine ⟨event, List.mem_of_getElem? hevent, Option.some_inj.mp hnoted, hkey,
    fun other hother hsame => ?_⟩
  obtain ⟨position, hposition, hidentifier, hlength⟩ := h.mem_events hother
  rw [(h.numbered hevent).event_identifier, hidentifier]
  by_contra hlater
  have hmem : other ∈ future := by
    rw [hevents, List.getElem?_append_right (by omega)] at hposition
    obtain ⟨k, hk⟩ := Nat.exists_eq_succ_of_ne_zero
      (show position - past.length ≠ 0 by omega)
    rw [hk] at hposition
    exact List.mem_of_getElem? hposition
  have hnone := hfuture other hmem
  simp [JobEvent.of_job, hsame] at hnone

lemma Journaled.issued_of_job {key : String} (h : Journaled store)
    (hjob : store.job? key = some job) : Issued originals store job := by
  obtain ⟨event, hevent, hsnapshot, -, -⟩ := h.last_event_of_job hjob
  exact Or.inr ⟨event, hevent, hsnapshot⟩

lemma Journaled.job_of_event {event : JobEvent} (h : Journaled store)
    (hevent : event ∈ store.events) : ∃ snapshot, store.job? event.job_identifier = some snapshot := by
  cases hjob : store.job? event.job_identifier with
  | some snapshot => exact ⟨snapshot, rfl⟩
  | none =>
    rw [h.job] at hjob
    have hnone := latest_eq_none.mp hjob event hevent
    simp [JobEvent.of_job] at hnone

/-- The saved jobs know all events. -/
lemma Journaled.coversUpTo {items : List JobSnapshot} (h : Journaled store)
    (hitems : ∀ key snapshot, store.job? key = some snapshot →
      KeyedList.find JobSnapshot.job_identifier items key = some snapshot) (number : ℕ) :
    CoversUpTo store number items := by
  intro event hevent _
  obtain ⟨position, hposition, -, -⟩ := h.mem_events hevent
  have hnumbered := h.numbered hposition
  obtain ⟨snapshot, hjob⟩ := h.job_of_event hevent
  obtain ⟨last, hlast, rfl, hkey, hlatest⟩ := h.last_event_of_job hjob
  refine ⟨last.snapshot, ?_, ?_⟩
  · rw [← hnumbered.job_identifier]
    exact hitems _ _ hjob
  · rw [h.revision_eq hevent, h.revision_eq hlast]
    exact hlatest event hevent rfl

/-- A list that the server sends: distinct, of issued snapshots, and as new as a number says. -/
structure Listing (originals : List JobSnapshot) (store : WorkflowStore) (number : ℕ)
    (items : List JobSnapshot) : Prop where
  distinct : DistinctJobs items
  issued : ∀ job ∈ items, Issued originals store job
  covers : CoversUpTo store number items
  number : number ≤ store.events.length

lemma distinct_sorted_jobs : DistinctJobs store.sorted_jobs :=
  WorkflowStore.nodup_sorted_jobs

lemma find_sorted_jobs {key : String} (h : store.job? key = some job) :
    KeyedList.find JobSnapshot.job_identifier store.sorted_jobs key = some job := by
  have hkey := WorkflowStore.identifier_of_job? h
  rw [KeyedList.find_eq_some_iff distinct_sorted_jobs]
  refine ⟨?_, hkey⟩
  rw [WorkflowStore.mem_sorted_jobs, hkey]
  exact h

lemma Journaled.issued_of_mem_sorted_jobs (h : Journaled store) (hjob : job ∈ store.sorted_jobs) :
    Issued originals store job :=
  h.issued_of_job (WorkflowStore.mem_sorted_jobs.mp hjob)

/-- A reset tells of everything that has happened. -/
lemma Journaled.listing_reset (h : Journaled store) :
    Listing originals store store.events.length (reset_items store.sorted_jobs originals) where
  distinct := KeyedList.distinct_foldl KeyedList.distinct_set_default KeyedList.distinct_of_list
  issued job hjob := by
    rcases KeyedList.mem_foldl KeyedList.mem_set_default hjob with horiginal | hjobs
    · exact Or.inl horiginal
    · exact h.issued_of_mem_sorted_jobs (KeyedList.mem_of_list hjobs)
  covers := by
    apply h.coversUpTo
    intro key snapshot hjob
    apply KeyedList.find_foldl_set_default
    rw [KeyedList.find_of_list distinct_sorted_jobs]
    exact find_sorted_jobs hjob
  number := le_rfl

/-- So does a list that the browser reads. -/
lemma Journaled.listing_read {items : List JobSnapshot} (h : Journaled store)
    (hitems : items.Perm (store.sorted_jobs.foldl (KeyedList.set JobSnapshot.job_identifier)
      (KeyedList.of_list JobSnapshot.job_identifier originals))) :
    Listing originals store store.events.length items := by
  have hdistinct : DistinctJobs (store.sorted_jobs.foldl (KeyedList.set JobSnapshot.job_identifier)
      (KeyedList.of_list JobSnapshot.job_identifier originals)) :=
    KeyedList.distinct_foldl KeyedList.Distinct.set KeyedList.distinct_of_list
  constructor
  · exact (hitems.map _).nodup_iff.mpr hdistinct
  · intro job hjob
    rcases KeyedList.mem_foldl KeyedList.mem_set (hitems.mem_iff.mp hjob) with hjobs | horiginal
    · exact h.issued_of_mem_sorted_jobs hjobs
    · exact Or.inl (KeyedList.mem_of_list horiginal)
  · apply h.coversUpTo
    intro key snapshot hjob
    rw [KeyedList.find_perm hdistinct hitems, KeyedList.find_foldl_set distinct_sorted_jobs,
      find_sorted_jobs hjob]
    rfl
  · exact le_rfl

lemma CoversUpTo.mono {number : ℕ} {items : List JobSnapshot} (h : CoversUpTo store number items)
    (hjournaled : Journaled store') (hnumber : number ≤ store.events.length)
    (hpublished : ReflTransGen Publishes store store') : CoversUpTo store' number items := by
  intro event hevent hidentifier
  apply h event _ hidentifier
  obtain ⟨position, hposition, hevent_identifier, -⟩ := hjournaled.mem_events hevent
  obtain ⟨more, hmore⟩ := prefix_events hpublished
  rw [← hmore, List.getElem?_append_left (by omega)] at hposition
  exact List.mem_of_getElem? hposition

lemma Listing.mono {number : ℕ} {items : List JobSnapshot}
    (h : Listing originals store number items) (hjournaled : Journaled store')
    (hpublished : ReflTransGen Publishes store store') : Listing originals store' number items where
  distinct := h.distinct
  issued job hjob := (h.issued job hjob).mono hpublished
  covers := h.covers.mono hjournaled h.number hpublished
  number := h.number.trans (prefix_events hpublished).length_le

/-! ### What is on its way -/

/-- The messages that lead from the last received one to the cursor of the stream. -/
inductive Follows (originals : List JobSnapshot) (store : WorkflowStore) :
    Option ℤ → List StreamMessage → ℤ → Prop where
  | nil {cursor : ℕ} (h : cursor ≤ store.events.length) :
      Follows originals store (some cursor) [] cursor
  | job {position : ℕ} {event : JobEvent} {rest : List StreamMessage} {cursor : ℤ}
      (hevent : store.events[position]? = some event)
      (hrest : Follows originals store (some (position + 1 : ℕ)) rest cursor) :
      Follows originals store (some position) (.job event :: rest) cursor
  | reset {number : ℕ} {items : List JobSnapshot} {rest : List StreamMessage} {cursor : ℤ}
      (hitems : Listing originals store number items)
      (hrest : Follows originals store (some number) rest cursor) :
      Follows originals store none (.reset number items :: rest) cursor

namespace Follows

variable {last : Option ℤ} {sent : List StreamMessage} {cursor : ℤ}

lemma mono (h : Follows originals store last sent cursor) (hjournaled : Journaled store')
    (hpublished : ReflTransGen Publishes store store') :
    Follows originals store' last sent cursor := by
  have hevents := prefix_events hpublished
  induction h with
  | nil hcursor => exact .nil (hcursor.trans hevents.length_le)
  | job hevent _ ih => exact .job (Log.getElem?_of_prefix hevents hevent) ih
  | reset hitems _ ih => exact .reset (hitems.mono hjournaled hpublished) ih

/-- The cursor is a position of the journal. -/
lemma cursor_le (h : Follows originals store last sent cursor) :
    ∃ position : ℕ, cursor = position ∧ position ≤ store.events.length := by
  induction h with
  | nil hcursor => exact ⟨_, rfl, hcursor⟩
  | job _ _ ih => exact ih
  | reset _ _ ih => exact ih

lemma append {cursor' : ℤ} {more : List StreamMessage}
    (h : Follows originals store last sent cursor)
    (hmore : Follows originals store (some cursor) more cursor') :
    Follows originals store last (sent ++ more) cursor' := by
  induction h with
  | nil => exact hmore
  | job hevent _ ih => exact .job hevent (ih hmore)
  | reset hitems _ ih => exact .reset hitems (ih hmore)

lemma of_slice {first number : ℕ} (hfirst : first ≤ number)
    (hnumber : number ≤ store.events.length) :
    Follows originals store (some first) ((Log.slice store.events first number).map .job)
      number := by
  induction h : number - first generalizing first with
  | zero =>
    obtain rfl : first = number := by omega
    rw [Log.slice_self]
    exact .nil hnumber
  | succ n ih =>
    have hlt : first < store.events.length := by omega
    rw [Log.slice_cons (by omega) (List.getElem?_eq_getElem hlt), List.map_cons]
    exact .job (List.getElem?_eq_getElem hlt) (ih (by omega) (by omega))

end Follows

/-! ### The invariant -/

/-- What a connection has to do with what the browser has received. -/
def Attached (originals : List JobSnapshot) (store : WorkflowStore) (last : Option ℤ) :
    StreamConnection → Prop
  | ⟨.opening raw, sent⟩ => raw = last ∧ sent = []
  | ⟨.resetting, sent⟩ => last = none ∧ sent = []
  | ⟨.following cursor, sent⟩ => Follows originals store last sent cursor

/-- What is true of an answer. -/
def Reported (originals : List JobSnapshot) (store : WorkflowStore) : Reply → Prop
  | .jobs items => DistinctJobs items ∧ ∀ job ∈ items, Issued originals store job
  | .job snapshot => Issued originals store snapshot

/-- The list of the browser. -/
def Browser.items (browser : Browser) : List JobSnapshot :=
  browser.jobs.getD []

structure InStep (originals : List JobSnapshot) (s : EventSystem) : Prop where
  journaled : Journaled s.service.store
  distinct : DistinctJobs s.browser.items
  issued : ∀ job ∈ s.browser.items, Issued originals s.service.store job
  position : ∀ last, s.browser.last_event_id = some last → ∃ number : ℕ, last = number ∧
    number ≤ s.service.store.events.length ∧ CoversUpTo s.service.store number s.browser.items
  connected : ∀ connection, s.connection = some connection →
    Attached originals s.service.store s.browser.last_event_id connection
  answered : ∀ reply ∈ s.replies, Reported originals s.service.store reply

variable {s t : EventSystem} {e : StreamEvent}

lemma Attached.mono {last : Option ℤ} {connection : StreamConnection}
    (h : Attached originals store last connection) (hjournaled : Journaled store')
    (hpublished : ReflTransGen Publishes store store') :
    Attached originals store' last connection := by
  obtain ⟨stream, sent⟩ := connection
  cases stream with
  | opening raw => exact h
  | resetting => exact h
  | following cursor => exact Follows.mono h hjournaled hpublished

lemma Reported.mono {reply : Reply} (h : Reported originals store reply)
    (hpublished : ReflTransGen Publishes store store') : Reported originals store' reply := by
  cases reply with
  | jobs items => exact ⟨h.1, fun job hjob => (h.2 job hjob).mono hpublished⟩
  | job snapshot => exact Issued.mono h hpublished

/-- A save of the service changes nothing that the browser has. -/
lemma InStep.published {service : WorkspaceJobService} (h : InStep originals s)
    (hpublished : ReflTransGen Publishes s.service.store service.store) :
    InStep originals { s with service } where
  journaled := h.journaled.published hpublished
  distinct := h.distinct
  issued job hjob := (h.issued job hjob).mono hpublished
  position last hlast := by
    obtain ⟨number, hnumber, hlength, hcovers⟩ := h.position last hlast
    exact ⟨number, hnumber, hlength.trans (prefix_events hpublished).length_le,
      hcovers.mono (h.journaled.published hpublished) hlength hpublished⟩
  connected connection hconnection :=
    (h.connected connection hconnection).mono (h.journaled.published hpublished) hpublished
  answered reply hreply := (h.answered reply hreply).mono hpublished

/-- The stream is somewhere else, with what it sends. -/
lemma InStep.reconnected {connection : Option StreamConnection} (h : InStep originals s)
    (hconnected : ∀ c, connection = some c →
      Attached originals s.service.store s.browser.last_event_id c) :
    InStep originals { s with connection } :=
  ⟨h.journaled, h.distinct, h.issued, h.position, hconnected, h.answered⟩

lemma consistent_check_cursor {sent : List StreamMessage} {readable : Bool} {raw : Option ℤ}
    {stream : EventStream} (h : InStep originals s)
    (hconnection : s.connection = some ⟨.opening raw, sent⟩)
    (hcheck : check_cursor readable raw s.service.store = .ok stream) :
    Attached originals s.service.store s.browser.last_event_id ⟨stream, sent⟩ := by
  obtain ⟨hraw, rfl⟩ := h.connected _ hconnection
  unfold check_cursor at hcheck
  cases raw with
  | none =>
    obtain rfl := pure_eq_ok.mp hcheck
    exact ⟨hraw.symm, rfl⟩
  | some last =>
    obtain ⟨number, rfl, hlength, -⟩ := h.position last hraw.symm
    dsimp only [Option.getD_some] at hcheck
    rw [if_neg (by omega)] at hcheck
    obtain ⟨latest, hlatest, hcheck⟩ := bind_eq_ok.mp hcheck
    obtain ⟨-, -, hlatest⟩ := bind_eq_ok.mp hlatest
    obtain rfl := pure_eq_ok.mp hlatest
    rw [h.journaled.maximum_event, if_neg (by omega)] at hcheck
    obtain rfl := pure_eq_ok.mp hcheck
    rw [← hraw]
    exact .nil hlength

lemma consistent_send_reset {sent : List StreamMessage} {surroundings : Surroundings}
    {readable : Bool} {cursor : ℕ} {items : List JobSnapshot} {service : WorkspaceJobService}
    (h : InStep originals s) (hconnection : s.connection = some ⟨.resetting, sent⟩)
    (hsend : send_reset surroundings readable (.ok originals) s.service
      = (.ok (cursor, items), service)) :
    Attached originals s.service.store s.browser.last_event_id
      ⟨.following cursor, sent ++ [.reset cursor items]⟩ := by
  obtain ⟨hlast, rfl⟩ := h.connected _ hconnection
  obtain ⟨latest, hlatest, hsend⟩ := lift_bind_ok.mp hsend
  obtain ⟨-, -, hlatest⟩ := bind_eq_ok.mp hlatest
  obtain rfl := pure_eq_ok.mp hlatest
  obtain ⟨foreign, horiginals, hpure⟩ := lift_bind_ok.mp (list_jobs_bind_ok hsend)
  obtain rfl := Except.ok.inj horiginals
  obtain ⟨hsent, -⟩ := pure_ok.mp hpure
  obtain ⟨rfl, rfl⟩ := Prod.mk.inj hsent
  rw [hlast, h.journaled.maximum_event]
  exact .reset h.journaled.listing_reset (.nil le_rfl)

lemma consistent_send_page {sent : List StreamMessage} {readable : Bool} {cursor cursor' : ℤ}
    {events : List JobEvent} {service : WorkspaceJobService} (h : InStep originals s)
    (hconnection : s.connection = some ⟨.following cursor, sent⟩)
    (hsend : send_page readable cursor s.service = (.ok (cursor', events), service)) :
    Attached originals s.service.store s.browser.last_event_id
      ⟨.following cursor', sent ++ events.map .job⟩ := by
  have hfollows : Follows originals s.service.store s.browser.last_event_id sent cursor :=
    h.connected _ hconnection
  obtain ⟨position, rfl, hposition⟩ := hfollows.cursor_le
  obtain ⟨_, hstorage, hsend⟩ := readOnly_bind_ok readOnly_require_storage hsend
  obtain ⟨page, hpage, hpure⟩ := lift_bind_ok.mp hsend
  obtain ⟨-, -, hpage⟩ := bind_eq_ok.mp hpage
  obtain rfl := pure_eq_ok.mp hpage
  obtain ⟨hsent, -⟩ := pure_ok.mp hpure
  obtain ⟨rfl, rfl⟩ := Prod.mk.inj hsent
  rw [h.journaled.events_after, Log.take_drop_eq_slice,
    h.journaled.cursor_after_slice (by omega) (by omega)]
  exact hfollows.append (.of_slice (by omega) (by omega))

/-! ### Receiving -/

lemma Merges.issued {previous : Option (List JobSnapshot)} {incoming items : List JobSnapshot}
    (h : Merges previous incoming items) (hincoming : ∀ job ∈ incoming, Issued originals store job)
    (hprevious : ∀ job ∈ previous.getD [], Issued originals store job) :
    ∀ job ∈ items, Issued originals store job := by
  intro job hjob
  rcases h.origin job hjob with hnew | hold
  · exact hincoming job hnew
  · exact hprevious job hold

lemma Merges.coversUpTo {previous : Option (List JobSnapshot)} {incoming items : List JobSnapshot}
    {number : ℕ} (h : Merges previous incoming items)
    (hcovers : CoversUpTo store number (previous.getD [])) : CoversUpTo store number items :=
  fun event hevent hidentifier => h.keeps _ (hcovers event hevent hidentifier)

/-- A list that takes in a list knows what that list knows. -/
lemma Merges.takes_covered {previous : Option (List JobSnapshot)}
    {incoming items : List JobSnapshot} (h : Merges previous incoming items)
    (hcovers : Covers incoming job) : Covers items job := by
  obtain ⟨found, hfound, hrevision⟩ := hcovers
  obtain ⟨found', hfound', hrevision'⟩ := h.takes found (KeyedList.mem_of_find hfound)
  rw [KeyedList.key_of_find hfound] at hfound'
  exact ⟨found', hfound', hrevision.trans hrevision'⟩

lemma consistent_receive {stream : EventStream} {message : StreamMessage}
    {sent : List StreamMessage} {shared : Bool} (h : InStep originals s)
    (hconnection : s.connection = some ⟨stream, message :: sent⟩) :
    InStep originals
      { s with connection := some ⟨stream, sent⟩, browser := s.browser.receive locale shared message } := by
  have hconnected := h.connected _ hconnection
  cases stream with
  | opening raw => exact absurd hconnected.2 (by simp)
  | resetting => exact absurd hconnected.2 (by simp)
  | following cursor =>
    have hfollows : Follows originals s.service.store s.browser.last_event_id (message :: sent)
        cursor := hconnected
    have hmerges : ∀ incoming, Merges s.browser.jobs incoming
        (set_query_data locale shared s.browser.jobs incoming) :=
      fun incoming => merges_set_query_data h.distinct
    generalize hlast : s.browser.last_event_id = last at hfollows
    cases hfollows with
    | @job position event _ _ hevent hrest =>
      obtain ⟨number, hnumber, hlength, hcovers⟩ := h.position _ hlast
      obtain rfl : position = number := by exact_mod_cast hnumber
      have hnumbered := h.journaled.numbered hevent
      have hmerged := hmerges [event.snapshot]
      refine ⟨h.journaled, hmerged.distinct, ?_, ?_, ?_, h.answered⟩
      · apply hmerged.issued _ h.issued
        intro job hjob
        rw [List.mem_singleton.mp hjob]
        exact Or.inr ⟨event, List.mem_of_getElem? hevent, rfl⟩
      · intro last hreceived
        obtain rfl := Option.some_inj.mp hreceived
        refine ⟨position + 1, ?_, ?_, fun other hother hidentifier => ?_⟩
        · show ((event.event_identifier : ℕ) : ℤ) = _
          rw [hnumbered.event_identifier]
        · exact (List.getElem?_eq_some_iff.mp hevent).1
        · by_cases hbefore : other.event_identifier ≤ position
          · exact hmerged.keeps _ (hcovers other hother hbefore)
          · obtain ⟨position', hposition', hidentifier', -⟩ := h.journaled.mem_events hother
            obtain rfl : position' = position := by omega
            obtain rfl := Option.some_inj.mp (hposition'.symm.trans hevent)
            exact hmerged.takes _ (List.mem_singleton_self _)
      · intro connection hsome
        obtain rfl := Option.some_inj.mp hsome
        show Follows originals s.service.store (some ((event.event_identifier : ℕ) : ℤ)) sent cursor
        rw [hnumbered.event_identifier]
        exact hrest
    | @reset number items _ _ hitems hrest =>
      have hmerged := hmerges items
      refine ⟨h.journaled, hmerged.distinct, hmerged.issued hitems.issued h.issued, ?_, ?_,
        h.answered⟩
      · intro last hreceived
        obtain rfl := Option.some_inj.mp hreceived
        refine ⟨number, rfl, hitems.number, fun event hevent hidentifier => ?_⟩
        exact hmerged.takes_covered (hitems.covers event hevent hidentifier)
      · intro connection hsome
        obtain rfl := Option.some_inj.mp hsome
        exact hrest

/-- The snapshots of an answer. -/
def Reply.items : Reply → List JobSnapshot
  | .jobs items => items
  | .job snapshot => [snapshot]

/-- An answer that is merged moves nothing back and does not touch the stream. -/
lemma consistent_accept {reply : Reply} {shared : Bool} (h : InStep originals s)
    (hreply : reply ∈ s.replies) :
    Merges s.browser.jobs reply.items (s.browser.accept locale shared reply).items ∧
      InStep originals { s with browser := s.browser.accept locale shared reply } := by
  have hupdated : ∀ {incoming items : List JobSnapshot}, Merges s.browser.jobs incoming items →
      (∀ job ∈ incoming, Issued originals s.service.store job) →
      InStep originals { s with browser := { s.browser with jobs := some items } } := by
    intro incoming items hmerges hincoming
    refine ⟨h.journaled, hmerges.distinct, hmerges.issued hincoming h.issued, ?_, h.connected,
      h.answered⟩
    intro last hlast
    obtain ⟨number, hnumber, hlength, hcovers⟩ := h.position last hlast
    exact ⟨number, hnumber, hlength, hmerges.coversUpTo hcovers⟩
  have hanswered := h.answered reply hreply
  cases reply with
  | jobs items =>
    have hmerges := @merges_structural_sharing locale s.browser.jobs items h.distinct hanswered.1
    exact ⟨hmerges, hupdated hmerges hanswered.2⟩
  | job snapshot =>
    have hmerges := @merges_set_query_data locale s.browser.jobs [snapshot] shared h.distinct
    refine ⟨hmerges, hupdated hmerges fun job hjob => ?_⟩
    rw [List.mem_singleton.mp hjob]
    exact hanswered

lemma consistent_read_jobs {surroundings : Surroundings} {items : List JobSnapshot}
    {service : WorkspaceJobService} (h : InStep originals s)
    (hread : read_jobs surroundings (.ok originals) s.service = (.ok items, service)) :
    Reported originals s.service.store (.jobs items) := by
  obtain ⟨foreign, horiginals, hread⟩ := lift_bind_ok.mp hread
  obtain rfl := Except.ok.inj horiginals
  have hpure := list_jobs_bind_ok hread
  obtain ⟨rfl, -⟩ := pure_ok.mp hpure
  have hlisting := @Journaled.listing_read originals _ _ h.journaled
    (List.perm_insertionSort (fun a b : JobSnapshot => a.created_at ≤ b.created_at) _)
  exact ⟨hlisting.distinct, hlisting.issued⟩

theorem StreamStep.consistent (h : StreamStep locale fingerprint originals s e t)
    (hs : InStep originals s) : InStep originals t := by
  cases h with
  | service h => exact hs.published h.recorded
  | connect hconnection =>
    apply hs.reconnected
    intro c hc
    obtain rfl := Option.some_inj.mp hc
    exact ⟨rfl, rfl⟩
  | check_cursor hconnection h =>
    apply hs.reconnected
    intro c hc
    obtain rfl := Option.some_inj.mp hc
    exact consistent_check_cursor hs hconnection h
  | send_reset hconnection h =>
    apply hs.reconnected
    intro c hc
    obtain rfl := Option.some_inj.mp hc
    exact consistent_send_reset hs hconnection h
  | send_page hconnection h =>
    apply hs.reconnected
    intro c hc
    obtain rfl := Option.some_inj.mp hc
    exact consistent_send_page hs hconnection h
  | receive hconnection => exact consistent_receive hs hconnection
  | disconnect =>
    apply hs.reconnected
    intro c hc
    exact absurd hc (by simp)
  | read_jobs h =>
    refine ⟨hs.journaled, hs.distinct, hs.issued, hs.position, hs.connected, ?_⟩
    intro reply hreply
    rcases List.mem_cons.mp hreply with rfl | hreply
    · have hanswer : Reported originals s.service.store _ := consistent_read_jobs hs h
      exact hanswer
    · exact hs.answered reply hreply
  | answer h =>
    refine ⟨hs.journaled, hs.distinct, hs.issued, hs.position, hs.connected, ?_⟩
    intro reply hreply
    rcases List.mem_cons.mp hreply with rfl | hreply
    · exact hs.journaled.issued_of_job h
    · exact hs.answered reply hreply
  | accept hreply => exact (consistent_accept hs hreply).2

lemma consistent_opened {service : WorkspaceJobService} (h : Reachable fingerprint service) :
    InStep originals { service } where
  journaled := journaled_of_reachable h
  distinct := KeyedList.distinct_nil
  issued job hjob := absurd hjob List.not_mem_nil
  position last hlast := absurd hlast (by simp)
  connected connection hconnection := absurd hconnection (by simp)
  answered reply hreply := absurd hreply List.not_mem_nil

end StegoLab
