import JobScheduler.Api.Handlers
import JobScheduler.Transition.WriteBack
import Mathlib

/-!
# Updating a queue

`PUT /queues/{id}` reads the row, merges the fields of the request into it and writes the whole
row back; `POST /queues/{id}/pause` and `…/resume` write one column. The calls of the repository
are atomic, and between the two calls of a `PUT` other requests come in.

A `PUT` writes the fields it does not mention as it read them. As long as these are still the
values of the row, nothing is lost: the row is the one that the requests leave when they are
executed one after another in the order of their writes. A `PUT` that finds another value there
puts the old one back.
-/

set_option autoImplicit false

namespace JobScheduler

open Relational Transition

/-- A request on the queue. -/
inductive QueueWrite where
  | put (req : UpdateQueueRequest)
  /-- `Pause` and `Resume`. -/
  | setPaused (paused : Bool)

/-- A parameter that is there and did not parse. -/
def Param.isMalformed {α : Type} : Param α → Bool
  | .malformed => true
  | _ => false

/-- The request passes the checks that `Update` makes on its fields. -/
def UpdateQueueRequest.Passes (req : UpdateQueueRequest) : Prop :=
  req.name ≠ some "" ∧ (¬ ∃ s ∈ req.slug, validSlug s = false) ∧
    req.retryPolicyId.isMalformed = false

instance (req : UpdateQueueRequest) : Decidable req.Passes :=
  inferInstanceAs (Decidable (_ ∧ _ ∧ _))

namespace QueueWrite

variable (id orgId : UUID)

/-- What `Update` does up to the write: the lookup and the checks. `setPaused` reads nothing. -/
def read (site : Site) : QueueWrite → Option (Option Queue)
  | .put req =>
      match site.getQueue id orgId with
      | .error _ => none
      | .ok queue => if req.Passes then some (some queue) else none
  | .setPaused _ => some none

/-- The write, with the row that was read. -/
def write (now : Timestamptz) (site : Site) : QueueWrite → Option Queue → Option Site
  | .put req, some queue => (site.updateQueue now (req.merge queue) orgId).toOption
  | .put _, none => none
  | .setPaused paused, _ => (site.setPaused now id orgId paused).toOption

end QueueWrite

/-- The two calls of a request on the queue. -/
def queueService (id orgId : UUID) : Service Site QueueWrite (Option Queue) Timestamptz where
  read request site := request.read id orgId site
  write request reading now site := request.write id orgId now site reading

/-- The tables after a request that succeeds. -/
def ApiResponse.succeeded (answer : ApiResponse × Site) : Option Site :=
  if answer.1.status < 300 then some answer.2 else none

/-- The handlers that serve the requests. -/
def QueueWrite.handle (env : ApiEnv) (id orgId : UUID) (site : Site) :
    QueueWrite → ApiResponse × Site
  | .put req => QueueHandler.update env orgId site (some id) (.ok req)
  | .setPaused paused => QueueHandler.setPaused env orgId site (some id) paused

/-- A request alone does what its handler does. -/
theorem queueService_alone (env : ApiEnv) (id orgId : UUID) (site : Site) (request : QueueWrite) :
    (queueService id orgId).alone request env.now site =
      ApiResponse.succeeded (request.handle env id orgId site) := by
  cases request with
  | setPaused paused =>
      simp only [Service.alone, queueService, QueueWrite.read, QueueWrite.write, QueueWrite.handle,
        QueueHandler.setPaused, withId, conclude, Option.bind_some]
      cases site.setPaused env.now id orgId paused with
      | ok site' => rfl
      | error e => cases e <;> rfl
  | put req =>
      simp only [Service.alone, queueService, QueueWrite.read, QueueWrite.handle,
        QueueHandler.update, withId, withBody, withFound, withNameAndSlug]
      cases site.getQueue id orgId with
      | error e => cases e <;> rfl
      | ok queue =>
          by_cases unnamed : req.name = some ""
          · simp only [UpdateQueueRequest.Passes, unnamed, ne_eq, not_true_eq_false, false_and,
              if_false, if_true]
            rfl
          by_cases misspelt : ∃ s ∈ req.slug, validSlug s = false
          · simp only [UpdateQueueRequest.Passes, unnamed, misspelt, not_true_eq_false, false_and,
              and_false, if_false, if_true]
            rfl
          simp only [UpdateQueueRequest.Passes, unnamed, misspelt, ne_eq, not_false_eq_true,
            true_and, if_false]
          cases req.retryPolicyId with
          | malformed => rfl
          | absent | given =>
              simp only [Param.isMalformed, if_true, Option.bind_some, QueueWrite.write, conclude]
              cases site.updateQueue env.now (req.merge queue) orgId with
              | ok site' => rfl
              | error e => cases e <;> rfl

/-! ## What a write puts into the row -/

/-- The columns that `QueueRepository.Update` reads from its argument are the same. -/
structure Queue.SameUpdate (first second : Queue) : Prop where
  id : first.id = second.id
  name : first.name = second.name
  slug : first.slug = second.slug
  retryPolicyId : first.retryPolicyId = second.retryPolicyId
  priorityDefault : first.priorityDefault = second.priorityDefault
  concurrencyLimit : first.concurrencyLimit = second.concurrencyLimit
  paused : first.paused = second.paused

theorem Site.updateQueue_congr {site : Site} {now : Timestamptz} {orgId : UUID}
    {first second : Queue} (same : first.SameUpdate second) :
    site.updateQueue now first orgId = site.updateQueue now second orgId := by
  simp only [Site.updateQueue, Database.updateQueue, same.id, same.name, same.slug,
    same.retryPolicyId, same.priorityDefault, same.concurrencyLimit, same.paused]

/-- The fields that the request does not mention have the same value in both rows. -/
structure UpdateQueueRequest.Untouched (req : UpdateQueueRequest) (read current : Queue) :
    Prop where
  name : req.name = none → read.name = current.name
  slug : req.slug = none → read.slug = current.slug
  retryPolicyId : req.retryPolicyId.value? = none → read.retryPolicyId = current.retryPolicyId
  priorityDefault : req.priorityDefault = none → read.priorityDefault = current.priorityDefault
  concurrencyLimit : req.concurrencyLimit = none →
    read.concurrencyLimit = current.concurrencyLimit
  paused : req.isPaused = none → read.paused = current.paused

instance (req : UpdateQueueRequest) (read current : Queue) :
    Decidable (req.Untouched read current) :=
  decidable_of_iff
    ((req.name = none → read.name = current.name) ∧ (req.slug = none → read.slug = current.slug) ∧
      (req.retryPolicyId.value? = none → read.retryPolicyId = current.retryPolicyId) ∧
      (req.priorityDefault = none → read.priorityDefault = current.priorityDefault) ∧
      (req.concurrencyLimit = none → read.concurrencyLimit = current.concurrencyLimit) ∧
      (req.isPaused = none → read.paused = current.paused))
    ⟨fun ⟨a, b, c, d, e, f⟩ => ⟨a, b, c, d, e, f⟩, fun ⟨a, b, c, d, e, f⟩ => ⟨a, b, c, d, e, f⟩⟩

/-- A default that matters only when nothing is given. -/
theorem getD_eq_getD {α : Type} {given : Option α} {first second : α}
    (same : given = none → first = second) : given.getD first = given.getD second := by
  cases given with
  | none => exact same rfl
  | some value => rfl

theorem orElse_eq_orElse {α : Type} {given first second : Option α}
    (same : given = none → first = second) :
    (given.orElse fun _ => first) = given.orElse fun _ => second := by
  cases given with
  | none => exact same rfl
  | some value => rfl

theorem UpdateQueueRequest.Untouched.merge {req : UpdateQueueRequest} {read current : Queue}
    (untouched : req.Untouched read current) (same : read.id = current.id) :
    (req.merge read).SameUpdate (req.merge current) where
  id := same
  name := getD_eq_getD untouched.name
  slug := getD_eq_getD untouched.slug
  retryPolicyId := orElse_eq_orElse untouched.retryPolicyId
  priorityDefault := getD_eq_getD untouched.priorityDefault
  concurrencyLimit := orElse_eq_orElse untouched.concurrencyLimit
  paused := getD_eq_getD untouched.paused

section

variable {id orgId : UUID} {site site' : Site} {now : Timestamptz} {queue : Queue}

/-- `GetByID` after a write to the row it finds. -/
theorem Site.getQueue_update (rewrite : Queue → Queue) (named : ∀ q, (rewrite q).id = q.id)
    (owned : ∀ q, (rewrite q).projectId = q.projectId) :
    Site.getQueue { site with
      queues := update (fun q => q.id = id ∧ site.core.QueueInOrg orgId q) rewrite site.queues }
      id orgId = (site.getQueue id orgId).map rewrite := by
  let selects : Queue → Prop := fun q => q.id = id ∧ site.core.QueueInOrg orgId q
  have keeps : ∀ q, decide (selects (rewrite q)) = decide (selects q) := by
    intro q
    refine decide_eq_decide.mpr ?_
    simp only [selects, Database.QueueInOrg, named, owned]
  have after : (update selects rewrite site.queues).find? (fun q => selects q) =
      (site.queues.find? (fun q => selects q)).map
        fun q => if selects q then rewrite q else q := find?_update keeps
  have lookup : ∀ queues : List Queue, Site.getQueue { site with queues := queues } id orgId =
      (queues.find? fun q => selects q).elim (.error .notFound) .ok := by
    intro queues
    unfold Site.getQueue Database.getQueue
    split
    next queue found =>
      have same : queues.find? (fun q => selects q) = some queue := found
      rw [same, Option.elim_some]
    next found =>
      have same : queues.find? (fun q => selects q) = none := found
      rw [same, Option.elim_none]
  rw [lookup, after, show site.getQueue id orgId = _ from lookup site.queues]
  cases found : site.queues.find? (fun q => selects q) with
  | none => rfl
  | some row =>
      have holds := List.find?_some found
      have selected : selects row := of_decide_eq_true holds
      simp only [Option.map_some, Option.elim_some, selected, if_true, Except.map]

/-- After a successful update the row has the columns of the argument. -/
theorem Site.getQueue_updateQueue {row : Queue} (found : site.getQueue id orgId = .ok row)
    (same : queue.id = id) (updates : site.updateQueue now queue orgId = .ok site') :
    site'.getQueue id orgId = .ok { row with
      name := queue.name
      slug := queue.slug
      retryPolicyId := queue.retryPolicyId
      priorityDefault := queue.priorityDefault
      concurrencyLimit := queue.concurrencyLimit
      paused := queue.paused
      updatedAt := now } := by
  obtain ⟨db', written, done⟩ := succeeded_of_map updates
  obtain ⟨_, _, _, _, rfl⟩ := Database.updateQueue_spec written
  subst done same
  refine (Site.getQueue_update (fun q => { q with
    name := queue.name
    slug := queue.slug
    retryPolicyId := queue.retryPolicyId
    priorityDefault := queue.priorityDefault
    concurrencyLimit := queue.concurrencyLimit
    paused := queue.paused
    updatedAt := now }) (fun _ => rfl) (fun _ => rfl)).trans ?_
  rw [found, Except.map]

/-- An update that succeeds has found the row. -/
theorem Site.exists_getQueue_of_updateQueue (same : queue.id = id)
    (updates : site.updateQueue now queue orgId = .ok site') :
    ∃ row, site.getQueue id orgId = .ok row := by
  obtain ⟨db', written, _⟩ := succeeded_of_map updates
  obtain ⟨_, ⟨row, member, named, owned⟩, _⟩ := Database.updateQueue_spec written
  simp only [Site.getQueue, Database.getQueue]
  cases found : site.core.queues.find? (fun q => q.id = id ∧ site.core.QueueInOrg orgId q) with
  | none =>
      have absent := List.find?_eq_none.mp found row member
      exact absurd (decide_eq_true ⟨named.trans same, owned⟩) absent
  | some row => exact ⟨row, rfl⟩

theorem Site.getQueue_id (found : site.getQueue id orgId = .ok queue) : queue.id = id := by
  simp only [Site.getQueue, Database.getQueue] at found
  split at found
  next row listed =>
    cases found
    have holds := List.find?_some listed
    exact (of_decide_eq_true holds).1
  · cases found

end

/-! ## Overlapping requests -/

/-- The requests of the queue, at the calls of the repository. -/
abbrev QueueServing := Serving Site QueueWrite (Option Queue) Timestamptz

abbrev QueueServingAction := ServingAction QueueWrite Timestamptz

/-- The fields that a request does not mention still have the values it read. -/
def StillCurrent (current : Except StoreError Queue) :
    Option (QueueWrite × Progress (Option Queue)) → Prop
  | some (.put req, .holding (some read)) =>
      match current with
      | .ok row => req.Untouched read row
      | .error _ => True
  | _ => True

/-- At the write of a `PUT` the fields it does not mention still have the values it read. -/
def UntouchedSince (id orgId : UUID) (s : QueueServing) : QueueServingAction → Prop
  | .write index => StillCurrent (s.state.getQueue id orgId) s.requests[index]?
  | _ => True

instance (current : Except StoreError Queue) :
    ∀ entry, Decidable (StillCurrent current entry)
  | some (.put req, .holding (some read)) =>
      match current with
      | .ok row => inferInstanceAs (Decidable (req.Untouched read row))
      | .error _ => isTrue trivial
  | some (.put _, .holding none) => isTrue trivial
  | some (.put _, .arrived) => isTrue trivial
  | some (.put _, .succeeded) => isTrue trivial
  | some (.put _, .failed) => isTrue trivial
  | some (.setPaused _, _) => isTrue trivial
  | none => isTrue trivial

instance (id orgId : UUID) (s : QueueServing) : ∀ a, Decidable (UntouchedSince id orgId s a)
  | .write index => inferInstanceAs (Decidable (StillCurrent _ s.requests[index]?))
  | .wait _ => isTrue trivial
  | .arrive _ => isTrue trivial
  | .read _ => isTrue trivial

/-- What is known of a reading. -/
def QueueWrite.Known (id : UUID) : QueueWrite → Option Queue → Prop
  | .put req, some queue => queue.id = id ∧ req.Passes
  | .put _, none => False
  | .setPaused _, _ => True

section

variable {id orgId : UUID} {s s₀ : QueueServing}
  {trace : List (QueueServing × QueueServingAction)}

theorem queueService_known (request : QueueWrite) (site : Site) (reading : Option Queue)
    (reads : (queueService id orgId).read request site = some reading) :
    request.Known id reading := by
  cases request with
  | setPaused paused => exact trivial
  | put req =>
      simp only [queueService, QueueWrite.read] at reads
      split at reads
      · cases reads
      next queue found =>
        obtain ⟨passes, done⟩ := Option.ite_none_right_eq_some.mp reads
        cases done
        exact ⟨Site.getQueue_id found, passes⟩

/-- A `PUT` with such a reading does what it would do alone. -/
theorem write_eq_alone {request : QueueWrite} {reading : Option Queue} {now : Timestamptz}
    {site : Site} (known : request.Known id reading)
    (untouched : ∀ req read current, request = .put req → reading = some read →
      site.getQueue id orgId = .ok current → req.Untouched read current) :
    (queueService id orgId).write request reading now site =
      (queueService id orgId).alone request now site := by
  cases request with
  | setPaused paused => rfl
  | put req =>
      cases reading with
      | none => exact known.elim
      | some read =>
          simp only [Service.alone, queueService, QueueWrite.read, QueueWrite.write]
          cases found : site.getQueue id orgId with
          | error e =>
              cases updates : site.updateQueue now (req.merge read) orgId with
              | error e' => rfl
              | ok site' =>
                  have merged : (req.merge read).id = id := known.1
                  obtain ⟨row, exists'⟩ := Site.exists_getQueue_of_updateQueue merged updates
                  rw [found] at exists'
                  cases exists'
          | ok current =>
              have same := untouched req read current rfl rfl found
              have ids : read.id = current.id := known.1.trans (Site.getQueue_id found).symm
              rw [Site.updateQueue_congr (same.merge ids)]
              simp only [known.2, if_true, Option.bind_some]

/-- Nothing that the requests of a run wrote is lost. -/
structure NoUpdateLost (id orgId : UUID) (s₀ : QueueServing)
    (trace : List (QueueServing × QueueServingAction)) (s : QueueServing) : Prop where
  /-- When all requests succeed, the row is the one they leave when they are executed one
  after another in some order. -/
  serial : s.AllSucceed → ∃ schedule : List (QueueWrite × Timestamptz),
    (schedule.map Prod.fst).Perm (s.requests.map Prod.fst) ∧
      (schedule.Pairwise fun first second => first.2 ≤ second.2) ∧
      ∃ site, (queueService id orgId).serially schedule s₀.state = some site ∧
        site.getQueue id orgId = s.state.getQueue id orgId
  /-- A `PUT` that does not mention `is_paused` leaves it as it is. -/
  pauses : ∀ before index after req reading row, (before, .write index) ∈ trace →
    (queueService id orgId).serving.step before (.write index) = some after →
    before.requests[index]? = some (.put req, .holding reading) → req.isPaused = none →
    before.state.getQueue id orgId = .ok row →
    ∃ row', after.state.getQueue id orgId = .ok row' ∧ row'.paused = row.paused

/-- The write of a `PUT` without `is_paused`. -/
theorem paused_of_write {after : QueueServing} {index : Nat} {req : UpdateQueueRequest}
    {reading : Option Queue} {row : Queue}
    (taken : (queueService id orgId).serving.step s (.write index) = some after)
    (held : s.requests[index]? = some (.put req, .holding reading))
    (known : (QueueWrite.put req).Known id reading) (unmentioned : req.isPaused = none)
    (found : s.state.getQueue id orgId = .ok row)
    (untouched : UntouchedSince id orgId s (.write index)) :
    ∃ row', after.state.getQueue id orgId = .ok row' ∧ row'.paused = row.paused := by
  generalize action : ServingAction.write index = a at taken
  cases Serving.step_moves taken with
  | waited | arrived | read => cases action
  | failed => exact ⟨row, found, rfl⟩
  | wrote i request reading' state held' written =>
      cases action
      rw [held] at held'
      cases held'
      cases reading with
      | none => exact known.elim
      | some read =>
          simp only [UntouchedSince, held, found, StillCurrent] at untouched
          have same := untouched.paused unmentioned
          cases updates : s.state.updateQueue s.now (req.merge read) orgId with
          | error e =>
              simp only [queueService, QueueWrite.write, updates] at written
              cases written
          | ok site' =>
              simp only [queueService, QueueWrite.write, updates] at written
              cases written
              have merged : (req.merge read).id = id := known.1
              refine ⟨_, Site.getQueue_updateQueue found merged updates, ?_⟩
              simp only [UpdateQueueRequest.merge, unmentioned, Option.getD_none, same]

/-- **No update is lost** as long as each `PUT` finds the fields it does not mention as it
read them. -/
theorem no_update_lost (path : Path (queueService id orgId).serving s₀ trace s)
    (start : s₀.requests = []) (untouched : Meets (UntouchedSince id orgId) trace) :
    NoUpdateLost id orgId s₀ trace s := by
  have known := Serving.holding_throughout (QueueWrite.Known id) queueService_known path start
  have current : Meets (Serving.Current (queueService id orgId)) trace := by
    rintro ⟨before, a⟩ member
    cases a with
    | wait | arrive | read => exact trivial
    | write index =>
        intro request reading held
        have holds := known.1 _ member request reading (List.mem_of_getElem? held)
        refine write_eq_alone holds ?_
        rintro req read current rfl rfl found
        have still := untouched _ member
        simp only [UntouchedSince, held, found, StillCurrent] at still
        exact still
  constructor
  · intro succeed
    obtain ⟨schedule, serialized⟩ := Serving.serialized_of_current path start current
    refine ⟨schedule, ?_, serialized.ordered, s.state, serialized.reached, rfl⟩
    rw [← Serving.flatMap_answered succeed]
    exact serialized.requests
  · intro before index after req reading row member taken held unmentioned found
    have holds := known.1 _ member _ reading (List.mem_of_getElem? held)
    exact paused_of_write taken held holds unmentioned found (untouched _ member)

end

/-! ## Two requests -/

/-- A queue that is not paused. -/
def oneQueueSite : Site where
  organizations := [⟨1, "Acme", "acme", 0, 0⟩]
  users := []
  projects := [⟨10, 1, "Mail", "mail", none, 0, 0⟩]
  retryPolicies := []
  queues := [⟨100, 10, "Outbox", "outbox", none, 0, none, false, 0, 0⟩]
  workers := []
  workerHeartbeats := []
  jobs := []
  executions := []
  logs := []
  letters := []

def idleServing : QueueServing := ⟨0, oneQueueSite, []⟩

/-- A request that changes the name only. -/
def rename (name : String) : QueueWrite := .put ⟨some name, none, .absent, none, none, none⟩

/-- Two requests arrive and read, then the second writes, then the first. -/
def overlapping (first second : QueueWrite) : List QueueServingAction :=
  [.arrive first, .arrive second, .read 0, .read 1, .wait 5, .write 1, .write 0]

theorem no_update_lost_overlappingRenames :
    ∃ trace s, Path (queueService 100 1).serving idleServing trace s ∧
      Meets (UntouchedSince 100 1) trace ∧
      s.state.queues.map (·.name) = ["Sent"] ∧ NoUpdateLost 100 1 idleServing trace s := by
  obtain ⟨trace, s, path, untouched, renamed⟩ :=
    exists_path_of_execute (queueService 100 1).serving
      (overlapping (rename "Sent") (rename "Drafts")) idleServing
      (fun trace s => (∀ entry ∈ trace, UntouchedSince 100 1 entry.1 entry.2) ∧
        s.state.queues.map (·.name) = ["Sent"]) (by decide)
  exact ⟨trace, s, path, untouched, renamed, no_update_lost path rfl untouched⟩

/-- The queue is paused after a renaming and a pause executed one after another, in either
order. -/
theorem paused_of_serially {schedule : List (QueueWrite × Timestamptz)} {site : Site}
    (requests : (schedule.map Prod.fst).Perm [rename "Sent", .setPaused true])
    (done : (queueService 100 1).serially schedule oneQueueSite = some site) :
    (site.getQueue 100 1).map (·.paused) = .ok true := by
  have paused : ((queueService 100 1).serially schedule oneQueueSite).map
      (fun site => (site.getQueue 100 1).map (·.paused)) = some (.ok true) := by
    obtain ⟨⟨first, firstTime⟩, ⟨second, secondTime⟩, rfl⟩ := List.length_eq_two.mp
      ((List.length_map Prod.fst).symm.trans requests.length_eq)
    rcases List.perm_pair.mp requests with order | order
    · cases order
      rfl
    · cases order
      rfl
  rw [done] at paused
  exact Option.some.inj paused

/-- A pause between the two calls of a renaming is undone. -/
theorem not_noUpdateLost :
    ¬ ∀ (id orgId : UUID) (s₀ s : QueueServing) (trace : List (QueueServing × QueueServingAction)),
      Path (queueService id orgId).serving s₀ trace s → s₀.requests = [] →
      NoUpdateLost id orgId s₀ trace s := by
  intro always
  have executes : execute (queueService 100 1).serving.step
      (overlapping (rename "Sent") (.setPaused true)) [] idleServing = some (_, _) := rfl
  have kept := always 100 1 idleServing _ _ (Path.execute _ .refl executes) rfl
  obtain ⟨schedule, requests, _, site, reached, same⟩ := kept.serial <| by
    intro entry member
    rcases List.mem_pair.mp member with rfl | rfl <;> rfl
  have paused := paused_of_serially requests reached
  rw [same] at paused
  cases paused

end JobScheduler
