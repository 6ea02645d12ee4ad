import AimAnalysis.Schedule.Agenda

/-!
# What happens to an agenda

Every operation on an agenda is a series of events. Tasks are scheduled and queued, scheduled tasks arrive in the
queue when their time has come, tasks are cancelled, and the oldest queued one is taken off, to be started or to be
skipped. An event may come where the agenda allows it (`Agenda.Allows`): what arrives and what starts is not
cancelled, what is skipped is, and nothing but the oldest task is taken off.

* `Agenda.Leads` — events that lead from one agenda to another. Running a task is such a series, and so is running
  one task after another while those behind it are still queued (`Agenda.leads_foldl_runEntry`).
* `Agenda.Leads.queue` — **the queue** is taken off in the order in which it was filled.
* `Agenda.Reflects` — an agenda shows which tasks were scheduled and cancelled. Every event keeps this
  (`Agenda.Reflects.after`).
* `Agenda.Leads.not_cancelled` — what was cancelled neither arrives nor starts any more.
-/

namespace AimAnalysis.Agenda

/-- Something that happens to an agenda. -/
inductive Event where
  /-- A task is scheduled for later, under a handle if it can be cancelled. -/
  | scheduled (handle : Option Nat) (entry : QueuedTask)
  /-- A scheduled task is queued, because its time has come. -/
  | arrived (entry : QueuedTask)
  /-- A task is queued at once. -/
  | queued (entry : QueuedTask)
  /-- The task with a serial number is cancelled. -/
  | cancelled (serial : Nat)
  /-- The oldest queued task is taken off and runs. -/
  | started (entry : QueuedTask)
  /-- The oldest queued task is taken off and does not run. -/
  | skipped (entry : QueuedTask)

namespace Event

/-- The entry that is queued. -/
def queued? : Event → Option QueuedTask
  | .arrived entry | .queued entry => some entry
  | .scheduled .. | .cancelled _ | .started _ | .skipped _ => none

/-- The entry that is taken off. -/
def taken? : Event → Option QueuedTask
  | .started entry | .skipped entry => some entry
  | .scheduled .. | .arrived _ | .queued _ | .cancelled _ => none

/-- The entry that runs. -/
def started? : Event → Option QueuedTask
  | .started entry => some entry
  | .scheduled .. | .arrived _ | .queued _ | .cancelled _ | .skipped _ => none

/-- The entry that is scheduled and can be cancelled. -/
def scheduled? : Event → Option QueuedTask
  | .scheduled (some _) entry => some entry
  | .scheduled none _ | .arrived _ | .queued _ | .cancelled _ | .started _ | .skipped _ => none

/-- The serial number that a handle gets. -/
def serial? (handle : Nat) : Event → Option Nat
  | .scheduled (some other) entry => if other = handle then entry.serial else none
  | .scheduled none _ | .arrived _ | .queued _ | .cancelled _ | .started _ | .skipped _ => none

end Event

/-- The entries that were queued, in order. -/
def queuedIn (past : List Event) : List QueuedTask := past.filterMap Event.queued?

/-- The entries that were taken off, in order. -/
def takenIn (past : List Event) : List QueuedTask := past.filterMap Event.taken?

/-- The entries that have run, in order. -/
def startedIn (past : List Event) : List QueuedTask := past.filterMap Event.started?

/-- The entries that were scheduled and can be cancelled, in order. -/
def scheduledIn (past : List Event) : List QueuedTask := past.filterMap Event.scheduled?

/-- The serial number that a handle got most recently. -/
def latest? (handle : Nat) (past : List Event) : Option Nat :=
  (past.filterMap (Event.serial? handle)).getLast?

/-- What is picked from one more. -/
theorem filterMap_cons_eq {α β : Type} (f : α → Option β) (x : α) (xs : List α) :
    (x :: xs).filterMap f = (f x).toList ++ xs.filterMap f := by
  rw [List.filterMap_cons]
  cases f x <;> rfl

section

variable (past later : List Event) (e : Event)

theorem queuedIn_cons : queuedIn (e :: later) = e.queued?.toList ++ queuedIn later :=
  filterMap_cons_eq _ e later

theorem takenIn_cons : takenIn (e :: later) = e.taken?.toList ++ takenIn later :=
  filterMap_cons_eq _ e later

theorem startedIn_cons : startedIn (e :: later) = e.started?.toList ++ startedIn later :=
  filterMap_cons_eq _ e later

/-- What has run was taken off. -/
theorem startedIn_sublist_takenIn : (startedIn past).Sublist (takenIn past) := by
  induction past with
  | nil => exact .slnil
  | cons e later ih =>
      rw [startedIn_cons, takenIn_cons]
      refine List.Sublist.append ?_ ih
      cases e with
      | started entry => exact .refl _
      | _ => exact List.nil_sublist _

theorem takenIn_append : takenIn (past ++ later) = takenIn past ++ takenIn later :=
  List.filterMap_append

theorem scheduledIn_concat : scheduledIn (past ++ [e]) = scheduledIn past ++ e.scheduled?.toList := by
  rw [scheduledIn, List.filterMap_append, filterMap_cons_eq, List.filterMap_nil, List.append_nil]
  rfl

theorem latest?_concat (handle : Nat) :
    latest? handle (past ++ [e]) = (e.serial? handle).or (latest? handle past) := by
  rw [latest?, List.filterMap_append, filterMap_cons_eq]
  cases e.serial? handle <;> simp [latest?]

end

/-! ### Events that may come -/

theorem isCancelledSerial_eq_true {a : Agenda} {serial : Option Nat} :
    a.isCancelledSerial serial = true ↔ ∃ n, serial = some n ∧ n ∈ a.cancelled := by
  cases serial <;> simp [isCancelledSerial]

/-- Whether an event may come. -/
def Allows (a : Agenda) : Event → Prop
  | .scheduled none entry => entry.serial = none
  | .scheduled (some _) entry => entry.serial = some a.nextSerial
  | .arrived entry => a.isCancelledSerial entry.serial = false
  | .queued entry => entry.serial = none
  | .cancelled serial => ∃ handle, a.handles.get? handle = some serial
  | .started entry => a.queue.head? = some entry ∧ a.isCancelledSerial entry.serial = false
  | .skipped entry => a.queue.head? = some entry ∧ a.isCancelledSerial entry.serial = true

/-- The agenda after an event. -/
def after (a : Agenda) : Event → Agenda
  | .scheduled none _ => a
  | .scheduled (some handle) _ => a.enlist handle
  | .arrived entry | .queued entry => a.push entry
  | .cancelled serial => { a with cancelled := serial :: a.cancelled }
  | .started entry => { a with queue := a.queue.tail, started := a.started ++ [entry] }
  | .skipped _ => { a with queue := a.queue.tail }

/-- An event queues behind all others, and takes off in front of them. -/
theorem queue_after {a : Agenda} {e : Event} (allowed : a.Allows e) :
    a.queue ++ e.queued?.toList = e.taken?.toList ++ (a.after e).queue := by
  cases e with
  | scheduled handle entry => cases handle <;> exact List.append_nil _
  | arrived entry | queued entry => rfl
  | cancelled serial => exact List.append_nil _
  | started entry | skipped entry =>
      obtain ⟨rest, hrest⟩ := List.head?_eq_some_iff.mp allowed.1
      simp [Event.queued?, Event.taken?, after, hrest]

theorem started_after (a : Agenda) (e : Event) : (a.after e).started = a.started ++ e.started?.toList := by
  cases e with
  | scheduled handle entry => cases handle <;> exact (List.append_nil _).symm
  | started entry => rfl
  | _ => exact (List.append_nil _).symm

/-- The events that may come one after the other, from one agenda to another. -/
inductive Leads : Agenda → List Event → Agenda → Prop where
  /-- Nothing happens. -/
  | nil {a : Agenda} : Leads a [] a
  /-- An event comes first. -/
  | cons {a b : Agenda} {e : Event} {later : List Event} (allowed : a.Allows e)
    (rest : Leads (a.after e) later b) : Leads a (e :: later) b

namespace Leads

variable {a b c : Agenda} {e : Event} {events later : List Event}

theorem single (allowed : a.Allows e) : Leads a [e] (a.after e) := .cons allowed .nil

theorem append (h : Leads a events b) (rest : Leads b later c) : Leads a (events ++ later) c := by
  induction h with
  | nil => exact rest
  | cons allowed _ ih => exact .cons allowed (ih rest)

/-- **The queue.** What was queued, with what is there at first, is taken off in that order, each entry once,
or waits in that order. -/
theorem queue (h : Leads a events b) : a.queue ++ queuedIn events = takenIn events ++ b.queue := by
  induction h with
  | nil => exact List.append_nil _
  | cons allowed _ ih =>
      rw [queuedIn_cons, takenIn_cons, ← List.append_assoc, queue_after allowed, List.append_assoc, ih,
        List.append_assoc]

/-- What has run is what was started. -/
theorem started (h : Leads a events b) : b.started = a.started ++ startedIn events := by
  induction h with
  | nil => exact (List.append_nil _).symm
  | cons _ _ ih => rw [ih, started_after, startedIn_cons, List.append_assoc]

/-- An event came where it was allowed. -/
theorem exists_allows {earlier : List Event} (h : Leads a (earlier ++ e :: later) b) :
    ∃ c, Leads a earlier c ∧ c.Allows e := by
  induction earlier generalizing a with
  | nil =>
      cases h with
      | cons allowed _ => exact ⟨a, .nil, allowed⟩
  | cons e' earlier ih =>
      cases h with
      | cons allowed rest =>
          obtain ⟨c, hearlier, hallows⟩ := ih rest
          exact ⟨c, .cons allowed hearlier, hallows⟩

/-- The beginning of a series. -/
theorem exists_of_append (h : Leads a (events ++ later) c) : ∃ b, Leads a events b := by
  cases later with
  | nil => exact ⟨c, by rwa [List.append_nil] at h⟩
  | cons e later =>
      obtain ⟨b, hb, -⟩ := h.exists_allows
      exact ⟨b, hb⟩

end Leads

/-! ### A task that runs -/

/-- The serial numbers that a task cancels. -/
def serialsOf (a : Agenda) (task : MainTask) : List Nat := task.cancels.filterMap a.handles.get?

/-- What happens with the oldest queued task when its turn comes. -/
def eventsOf (a : Agenda) (entry : QueuedTask) : List Event :=
  if a.isCancelledSerial entry.serial then [.skipped entry]
  else
    .started entry :: ((a.serialsOf entry.task).map .cancelled
      ++ (entry.task.queues.map fun task => ({ task } : QueuedTask)).map .queued)

/-- What happens with queued tasks when it is their turn, one after the other. -/
def eventsOfAll : Agenda → List QueuedTask → List Event
  | _, [] => []
  | a, entry :: rest => a.eventsOf entry ++ (a.runEntry entry).eventsOfAll rest

theorem foldl_cancel (a : Agenda) (handles : List Nat) :
    handles.foldl cancel a
      = { a with cancelled := (handles.filterMap a.handles.get?).reverse ++ a.cancelled } := by
  induction handles generalizing a with
  | nil => rfl
  | cons handle handles ih =>
      rw [List.foldl_cons, ih]
      cases h : a.handles.get? handle <;> simp [cancel, h]

theorem foldl_push (a : Agenda) (tasks : List MainTask) :
    tasks.foldl (fun a task => a.push { task }) a
      = { a with queue := a.queue ++ tasks.map fun task => ({ task } : QueuedTask) } := by
  induction tasks generalizing a with
  | nil => simp
  | cons task tasks ih =>
      rw [List.foldl_cons, ih, List.map_cons, List.append_cons]
      rfl

theorem runEntry_of_cancelled {a : Agenda} {entry : QueuedTask}
    (h : a.isCancelledSerial entry.serial = true) : a.runEntry entry = a :=
  if_pos h

/-- **A task that is not cancelled** runs: it cancels what its handles name, and queues its tasks. -/
theorem runEntry_of_live {a : Agenda} {entry : QueuedTask}
    (h : a.isCancelledSerial entry.serial = false) :
    a.runEntry entry
      = { a with
          queue := a.queue ++ entry.task.queues.map fun task => ({ task } : QueuedTask)
          started := a.started ++ [entry]
          cancelled := (a.serialsOf entry.task).reverse ++ a.cancelled } := by
  simp only [runEntry, h, Bool.false_eq_true, if_false, foldl_cancel, foldl_push, serialsOf]

/-- Tasks may be cancelled one after the other. -/
theorem leads_cancelled {a : Agenda} {serials : List Nat}
    (h : ∀ serial ∈ serials, ∃ handle, a.handles.get? handle = some serial) :
    Leads a (serials.map .cancelled) { a with cancelled := serials.reverse ++ a.cancelled } := by
  induction serials generalizing a with
  | nil => exact .nil
  | cons serial serials ih =>
      have hrest := ih (a := a.after (.cancelled serial)) fun n hn => h n (List.mem_cons_of_mem _ hn)
      refine .cons (h serial List.mem_cons_self) ?_
      rw [List.reverse_cons, List.append_assoc]
      exact hrest

/-- Entries may be queued one after the other, at once or when their time has come. -/
theorem leads_push {a : Agenda} {event : QueuedTask → Event} {entries : List QueuedTask}
    (pushes : ∀ (b : Agenda) (entry : QueuedTask), b.after (event entry) = b.push entry)
    (allowed : ∀ b : Agenda, b.cancelled = a.cancelled → ∀ entry ∈ entries, b.Allows (event entry)) :
    Leads a (entries.map event) { a with queue := a.queue ++ entries } := by
  induction entries generalizing a with
  | nil =>
      rw [List.map_nil, List.append_nil]
      exact .nil
  | cons entry entries ih =>
      refine .cons (allowed a rfl entry List.mem_cons_self) ?_
      rw [pushes, List.append_cons]
      exact ih fun b hb x hx => allowed b hb x (List.mem_cons_of_mem _ hx)

/-- Entries that are not cancelled may arrive. -/
theorem leads_arrived {a : Agenda} {arrivals : List QueuedTask}
    (live : ∀ entry ∈ arrivals, a.isCancelledSerial entry.serial = false) :
    Leads a (arrivals.map .arrived) { a with queue := a.queue ++ arrivals } := by
  refine leads_push (fun _ _ => rfl) fun b hb entry hentry => ?_
  have hsame : b.isCancelledSerial entry.serial = a.isCancelledSerial entry.serial := by
    unfold isCancelledSerial
    rw [hb]
  exact hsame.trans (live entry hentry)

/-- Tasks may be queued at once. -/
theorem leads_queued (a : Agenda) (tasks : List MainTask) :
    Leads a ((tasks.map fun task => ({ task } : QueuedTask)).map .queued)
      { a with queue := a.queue ++ tasks.map fun task => ({ task } : QueuedTask) } := by
  refine leads_push (fun _ _ => rfl) fun b _ entry hentry => ?_
  obtain ⟨task, -, rfl⟩ := List.mem_map.mp hentry
  rfl

/-- **A task whose turn comes** is taken off and runs in front of the others that are queued, or is skipped. -/
theorem leads_runEntry (a : Agenda) (entry : QueuedTask) (rest : List QueuedTask) :
    Leads { a with queue := entry :: (rest ++ a.queue) } (a.eventsOf entry)
      { a.runEntry entry with queue := rest ++ (a.runEntry entry).queue } := by
  cases h : a.isCancelledSerial entry.serial with
  | true =>
      rw [eventsOf, if_pos h, runEntry_of_cancelled h]
      exact .single ⟨rfl, h⟩
  | false =>
      let begun : Agenda := { a with queue := rest ++ a.queue, started := a.started ++ [entry] }
      have hcancelled : Leads begun ((a.serialsOf entry.task).map .cancelled)
          { begun with cancelled := (a.serialsOf entry.task).reverse ++ a.cancelled } :=
        leads_cancelled fun serial hserial =>
          (List.mem_filterMap.mp hserial).imp fun handle hhandle => hhandle.2
      rw [eventsOf, if_neg (Bool.eq_false_iff.mp h), runEntry_of_live h]
      refine .cons ⟨rfl, h⟩ (hcancelled.append ?_)
      rw [← List.append_assoc rest]
      exact leads_queued { begun with cancelled := (a.serialsOf entry.task).reverse ++ a.cancelled } _

/-- **Queued tasks run one after the other**, those that wait for their turn still in front of what is queued
meanwhile. -/
theorem leads_foldl_runEntry (a : Agenda) (batch : List QueuedTask) :
    Leads { a with queue := batch ++ a.queue } (a.eventsOfAll batch) (batch.foldl runEntry a) := by
  induction batch generalizing a with
  | nil => exact .nil
  | cons entry rest ih => exact (leads_runEntry a entry rest).append (ih (a.runEntry entry))

/-- What happens with tasks whose turn has come: they are taken off, and so nothing arrives. -/
theorem takenIn_eventsOfAll (a : Agenda) (batch : List QueuedTask) :
    takenIn (a.eventsOfAll batch) = batch := by
  induction batch generalizing a with
  | nil => rfl
  | cons entry rest ih =>
      have hentry : takenIn (a.eventsOf entry) = [entry] := by
        unfold eventsOf
        split
        · rfl
        · simp [takenIn, Event.taken?, List.filterMap_map, Function.comp_def]
      rw [eventsOfAll, takenIn_append, hentry, ih]
      rfl

theorem arrived_notMem_eventsOfAll (a : Agenda) (batch : List QueuedTask) (entry : QueuedTask) :
    .arrived entry ∉ a.eventsOfAll batch := by
  induction batch generalizing a with
  | nil => exact List.not_mem_nil
  | cons first rest ih =>
      have hfirst : .arrived entry ∉ a.eventsOf first := by
        unfold eventsOf
        split <;> simp
      simp [eventsOfAll, hfirst, ih]

/-! ### What an agenda shows -/

/-- An agenda that shows which tasks were scheduled and cancelled. -/
structure Reflects (past : List Event) (a : Agenda) : Prop where
  /-- What was cancelled is known. -/
  cancelled : ∀ serial, serial ∈ a.cancelled ↔ .cancelled serial ∈ past
  /-- Serial numbers are given in turn. -/
  nextSerial : a.nextSerial = (scheduledIn past).length
  /-- A scheduled task has the number of those before it. -/
  serials : ∀ (i : Nat) (entry : QueuedTask), (scheduledIn past)[i]? = some entry → entry.serial = some i
  /-- Handles name the tasks that they were given to most recently. -/
  handles : ∀ handle, a.handles.get? handle = latest? handle past

namespace Reflects

variable {past : List Event} {a b : Agenda}

/-- A new agenda, to which nothing has happened. -/
theorem empty : Reflects [] {} :=
  ⟨fun _ => by simp, rfl, fun _ _ h => by simp [scheduledIn] at h, fun _ => rfl⟩

/-- One more event that schedules nothing. -/
theorem of_unscheduled (h : Reflects past a) {e : Event} (unscheduled : e.scheduled? = none)
    (cancelled : ∀ serial, serial ∈ b.cancelled ↔ serial ∈ a.cancelled ∨ .cancelled serial = e)
    (nextSerial : b.nextSerial = a.nextSerial) (handles : b.handles = a.handles) :
    Reflects (past ++ [e]) b where
  cancelled serial := by rw [cancelled, h.cancelled, List.mem_append, List.mem_singleton]
  nextSerial := by
    rw [scheduledIn_concat, unscheduled, Option.toList_none, List.append_nil, nextSerial, h.nextSerial]
  serials := by
    rw [scheduledIn_concat, unscheduled, Option.toList_none, List.append_nil]
    exact h.serials
  handles handle := by
    have hserial : e.serial? handle = none := by
      cases e with
      | scheduled other entry => cases other with
        | none => rfl
        | some other => cases unscheduled
      | _ => rfl
    rw [latest?_concat, hserial, handles, h.handles]
    rfl

/-- One more task that can be cancelled, with the next number. -/
theorem enlist (h : Reflects past a) {handle : Nat} {entry : QueuedTask}
    (numbered : entry.serial = some a.nextSerial) :
    Reflects (past ++ [.scheduled (some handle) entry]) (a.enlist handle) where
  cancelled serial := by simp [Agenda.enlist, h.cancelled]
  nextSerial := by simp [scheduledIn_concat, Agenda.enlist, h.nextSerial, Event.scheduled?]
  serials i other hother := by
    rw [scheduledIn_concat] at hother
    rcases Nat.lt_or_ge i (scheduledIn past).length with hold | hnew
    · rw [List.getElem?_append_left hold] at hother
      exact h.serials i other hother
    · obtain ⟨hlt, rfl⟩ := List.getElem?_eq_some_iff.mp hother
      have hi : i = (scheduledIn past).length := by
        simp [Event.scheduled?] at hlt
        omega
      subst hi
      simpa [Event.scheduled?, ← h.nextSerial] using numbered
  handles other := by
    rw [latest?_concat, Agenda.enlist, Table.get?_insert, ← h.handles, Event.serial?]
    by_cases hother : other = handle
    · simp [hother, numbered]
    · simp [hother, Ne.symm hother]

/-- **One more event.** -/
theorem after (h : Reflects past a) {e : Event} (allowed : a.Allows e) :
    Reflects (past ++ [e]) (a.after e) := by
  cases e with
  | scheduled handle entry =>
      cases handle with
      | none => exact h.of_unscheduled rfl (by simp [Agenda.after]) rfl rfl
      | some handle => exact h.enlist allowed
  | arrived entry | queued entry => exact h.of_unscheduled rfl (by simp [Agenda.after, push]) rfl rfl
  | cancelled serial => exact h.of_unscheduled rfl (by simp [Agenda.after, or_comm]) rfl rfl
  | started entry | skipped entry => exact h.of_unscheduled rfl (by simp [Agenda.after]) rfl rfl

/-- **A series of events.** -/
theorem of_leads {events : List Event} (h : Reflects past a) (leads : Leads a events b) :
    Reflects (past ++ events) b := by
  induction leads generalizing past with
  | nil => rwa [List.append_nil]
  | cons allowed _ ih =>
      rw [List.append_cons]
      exact ih (h.after allowed)

end Reflects

/-! ### Cancelling -/

section

variable {a : Agenda} {earlier later : List Event} {entry : QueuedTask}

/-- **What was cancelled** neither arrives nor starts any more. -/
theorem Leads.not_cancelled {serial : Nat} (h : Leads {} (earlier ++ .cancelled serial :: later) a)
    (named : entry.serial = some serial) : .arrived entry ∉ later ∧ .started entry ∉ later := by
  -- an agenda that shows the cancelling does not allow either
  have hnone : ∀ e ∈ later, ∃ b, isCancelledSerial b entry.serial = true ∧ b.Allows e := by
    intro e he
    obtain ⟨between, rest, rfl⟩ := List.append_of_mem he
    rw [← List.cons_append, ← List.append_assoc] at h
    obtain ⟨b, hearlier, hallows⟩ := h.exists_allows
    have hcancelled : serial ∈ b.cancelled :=
      ((Reflects.empty.of_leads hearlier).cancelled serial).mpr (by simp)
    exact ⟨b, isCancelledSerial_eq_true.mpr ⟨serial, named, hcancelled⟩, hallows⟩
  constructor
  · intro he
    obtain ⟨b, hcancelled, hallows⟩ := hnone _ he
    exact Bool.noConfusion (hallows.symm.trans hcancelled)
  · intro he
    obtain ⟨b, hcancelled, hallows⟩ := hnone _ he
    exact Bool.noConfusion (hallows.2.symm.trans hcancelled)

/-- **What is skipped** was cancelled. -/
theorem Leads.exists_cancelled (h : Leads {} (earlier ++ .skipped entry :: later) a) :
    ∃ serial, entry.serial = some serial ∧ .cancelled serial ∈ earlier := by
  obtain ⟨b, hearlier, hallows⟩ := h.exists_allows
  obtain ⟨serial, hserial, hcancelled⟩ := isCancelledSerial_eq_true.mp hallows.2
  exact ⟨serial, hserial, ((Reflects.empty.of_leads hearlier).cancelled serial).mp hcancelled⟩

/-- **Nothing is taken off** but what was queued before, the oldest first. -/
theorem Leads.takenIn_prefix (h : Leads {} (earlier ++ later) a) : takenIn earlier <+: queuedIn earlier := by
  obtain ⟨b, hearlier⟩ := h.exists_of_append
  exact ⟨b.queue, hearlier.queue.symm⟩

end

end AimAnalysis.Agenda
