import JobScheduler.System.Served
import JobScheduler.System.WellFormed
import JobScheduler.Transition.Simulation

/-!
# The backend

The API server takes requests while engines and reapers work on the same tables. The whole system
knows of the API its writing repository calls only; here a request is what arrives over HTTP, with
any method, path, header and body, and what becomes of it is up to the router, the middleware and
the handlers.

Every run of the backend is a run of the whole system, so what was shown for the whole system holds
of the backend.
-/

set_option autoImplicit false

namespace JobScheduler

open Relational Transition

variable (read : RowReader)

/-! ## The history of the whole system -/

/-- Another history behind the same state. -/
def World.withHistory (w : World) (issued : List UUID) (events : List Event) : World :=
  { w with issued := issued, events := events }

/-- The writing repository calls of the API. -/
def Action.isRequest : Action → Bool
  | .api _ => true
  | _ => false

/-- No step of an engine or a reaper reads the history. -/
theorem World.step_withHistory {cron : CronParser} {w w' : World} {a : Action}
    (taken : w.step cron a = some w') (internal : a.isRequest = false) {issued : List UUID}
    (fewer : issued ⊆ w.issued) (events : List Event) :
    ∃ issued' events', (w.withHistory issued events).step cron a =
      some (w'.withHistory issued' events') ∧ issued' ⊆ w'.issued := by
  cases a with
  | api => cases internal
  | tick micros =>
      cases taken
      exact ⟨issued, events, rfl, fewer⟩
  | sweep =>
      cases taken
      exact ⟨issued, events, rfl, fewer⟩
  | markDead staleThreshold =>
      cases taken
      exact ⟨issued, events, rfl, fewer⟩
  | register worker cfg =>
      simp only [step] at taken
      split at taken
      · cases taken
      next new =>
        cases taken
        refine ⟨worker :: issued, events, if_neg fun listed => new (fewer listed), ?_⟩
        exact List.cons_subset_cons worker fewer
  | heartbeat worker =>
      simp only [step] at taken ⊢
      split at taken
      · cases taken
      next engine found =>
        split at taken
        next running =>
          cases taken
          refine ⟨issued, events, ?_, fewer⟩
          simp only [withHistory, found, running]
          rfl
        · cases taken
  | cancel worker =>
      simp only [step] at taken ⊢
      split at taken
      · cases taken
      next engine found =>
        split at taken
        next running =>
          cases taken
          refine ⟨issued, events, ?_, fewer⟩
          simp only [withHistory, found, running]
          rfl
        · cases taken
  | crash worker =>
      simp only [step] at taken ⊢
      split at taken
      · cases taken
      next engine found =>
        split at taken
        · cases taken
        next alive =>
          cases taken
          refine ⟨issued, events, ?_, fewer⟩
          simp only [withHistory, found, if_neg alive]
          rfl
  | poll worker emit =>
      simp only [step] at taken ⊢
      split at taken
      · cases taken
      next engine found =>
        split at taken
        next running idle =>
          split at taken
          next free =>
            cases taken
            refine ⟨issued, events, ?_, fewer⟩
            simp only [withHistory, found, running, idle, if_pos free]
            rfl
          · cases taken
        · cases taken
  | claim worker tie emit succeeds =>
      simp only [step, claim] at taken ⊢
      split at taken
      · cases taken
      next engine found =>
        split at taken
        next queueId queues running phase =>
          split at taken
          next db jobs claims =>
            cases taken
            refine ⟨issued, events, ?_, fewer⟩
            have found' : (w.withHistory issued events).engines worker = some engine := found
            have same : (w.withHistory issued events).db.claimJobs (w.withHistory issued events).now
                tie emit worker queueId engine.cfg.leaseSeconds = .ok (db, jobs) := claims
            simp only [found', running, phase, same]
            rfl
          next fails =>
            cases taken
            refine ⟨issued, events, ?_, fewer⟩
            have found' : (w.withHistory issued events).engines worker = some engine := found
            simp only [found', running, phase]
            split
            next claims => exact absurd claims (fails _ _ rfl)
            · rfl
        · cases taken
  | dispatch worker =>
      simp only [step, dispatch] at taken ⊢
      split at taken
      · cases taken
      next engine found =>
        split at taken
        · cases taken
        next alive =>
          split at taken
          next phase =>
            split at taken
            next pending =>
              split at taken
              next free =>
                cases taken
                refine ⟨issued, events, ?_, fewer⟩
                simp only [withHistory, found, if_neg alive, phase, pending, if_pos free]
                rfl
              · cases taken
            · cases taken
          · cases taken
  | proceed worker =>
      simp only [step, proceed] at taken ⊢
      split at taken
      · cases taken
      next engine found =>
        split at taken
        · cases taken
        next alive =>
          obtain ⟨phase, next, rfl⟩ := Option.map_eq_some_iff.mp taken
          refine ⟨issued, events, ?_, fewer⟩
          have same : (w.withHistory issued events).nextPhase engine = some phase := next
          have found' : (w.withHistory issued events).engines worker = some engine := found
          simp only [found', if_neg alive, same]
          rfl
  | release worker succeeds =>
      simp only [step] at taken ⊢
      split at taken
      · cases taken
      next engine found =>
        split at taken
        next cancelled phase =>
          cases taken
          refine ⟨issued, events, ?_, fewer⟩
          simp only [withHistory, found, cancelled, phase]
          rfl
        · cases taken
  | deregister worker succeeds =>
      simp only [step] at taken ⊢
      split at taken
      · cases taken
      next engine found =>
        split at taken
        next cancelled phase =>
          cases taken
          refine ⟨issued, events, ?_, fewer⟩
          simp only [withHistory, found, cancelled, phase]
          rfl
        · cases taken
  | exec ticket response =>
      simp only [step, exec] at taken ⊢
      split at taken
      · cases taken
      next task current =>
        split at taken
        · cases taken
        next engine found =>
          split at taken
          next permits =>
            split at taken
            · cases taken
            next db pc event advances =>
              cases taken
              refine ⟨issued, event.toList ++ events, ?_, fewer⟩
              simp only [withHistory, current, found, if_pos permits, advances]
              rfl
          · cases taken
  | finish ticket =>
      simp only [step, finish] at taken ⊢
      split at taken
      next worker job reclaimed superseded returned =>
        split at taken
        · cases taken
        next engine found =>
          split at taken
          · cases taken
          next alive =>
            cases taken
            refine ⟨issued, events, ?_, fewer⟩
            simp only [withHistory, returned, found, if_neg alive]
            rfl
      · cases taken

/-! ## The backend -/

/-- The rows of the history after a step of an engine, with the columns that the whole system
does not know. -/
structure History where
  executions : List ExecutionRow
  logs : List LogRow
  letters : List Letter

/-- The API server, the engines and the reapers, on one database and with one clock. -/
structure Backend where
  now : Timestamptz
  drawn : List UUID
  site : Site
  engines : UUID → Option Engine
  tasks : Nat → Option Task
  nextTicket : Nat

inductive BackendAction where
  /-- A request arrives and is answered. -/
  | request (call : Call)
  /-- A step of the clock, an engine or a reaper. -/
  | internal (action : Action) (history : History)

/-- The call, with the clock and the cron library of the backend. -/
def Call.arriving (cron : CronParser) (now : Timestamptz) (call : Call) : Call :=
  { call with env := { call.env with cron := cron, instant := now.toTime, now := now } }

namespace Backend

variable (b : Backend)

/-- What the engines and reapers see of the backend. -/
def world : World where
  now := b.now
  issued := b.drawn
  db := b.site.database read
  engines := b.engines
  tasks := b.tasks
  nextTicket := b.nextTicket
  events := []

/-- The tables after a step of an engine or a reaper: they write jobs, workers and the history. -/
def refreshed (db : Database) (history : History) : Site :=
  { b.site with
    workers := db.workers
    workerHeartbeats := db.workerHeartbeats
    jobs := db.jobs
    executions := history.executions
    logs := history.logs
    letters := history.letters }

open Classical in
/-- The step function. -/
noncomputable def step (server : Server) (cron : CronParser) : BackendAction → Option Backend
  | .request call =>
      let arrived := call.arriving cron b.now
      if (server.drawn arrived).Nodup ∧ ∀ id ∈ server.drawn arrived, id ∉ b.drawn then
        some { b with
          site := (server.serve arrived b.site).2
          drawn := server.drawn arrived ++ b.drawn }
      else none
  | .internal action history =>
      if action.isRequest then none
      else
        (b.world read).step cron action |>.bind fun w =>
          if (b.refreshed w.db history).database read = w.db then
            some ⟨w.now, w.issued, b.refreshed w.db history, w.engines, w.tasks, w.nextTicket⟩
          else none

end Backend

/-- The backend from migrated tables on. -/
noncomputable def backend (server : Server) (cron : CronParser) (read : RowReader) :
    System Backend BackendAction where
  initial b := ∃ now policies, b = ⟨now, [], ⟨[], [], [], policies, [], [], [], [], [], [], []⟩,
    fun _ => none, fun _ => none, 0⟩
  step b a := b.step read server cron a

/-! ## The backend is the whole system -/

/-- A write leaves users there or deletes them. -/
theorem Site.Write.users {env : ApiEnv} {orgId : UUID} {site site' : Site} {drawn : List UUID}
    (write : site.Write env orgId drawn site') : ∀ u ∈ site'.users, u ∈ site.users := by
  have same : ∀ u ∈ site.users, u ∈ site.users := fun u member => member
  cases write with
  | deleteOrg done =>
      obtain ⟨_, _, rfl⟩ := succeeded_of_map done
      exact forall_mem_filter same
  | updateOrg done | createProject draws done | updateProject done | deleteProject done
  | createQueue draws owner done | updateQueue done | deleteQueue done | setPaused done =>
      obtain ⟨_, _, rfl⟩ := succeeded_of_map done
      exact same
  | createJob draws found builds done | createJobBatch draws sized found builds done
  | retryDLQJob done =>
      obtain ⟨⟨_, _⟩, _, result⟩ := succeeded_of_map done
      cases result
      exact same

/-- The whole system in the state of the backend, with some history. -/
structure Backend.Matches (read : RowReader) (b : Backend) (w : World) : Prop where
  world : ∃ issued events, issued ⊆ b.drawn ∧ w = (b.world read).withHistory issued events
  organizations : ∀ o ∈ b.site.organizations, o.id ∈ b.drawn
  users : ∀ u ∈ b.site.users, u.id ∈ b.drawn ∧ u.orgId ∈ b.drawn

namespace Backend.Matches

variable {read} {server : Server} {cron : CronParser} {b b' : Backend} {w : World}

/-- New identifiers belong to no account. -/
theorem fresh (follows : b.Matches read w) {call : Call}
    (new : ∀ id ∈ server.drawn call, id ∉ b.drawn) (found : server.route? call = some .register) :
    AuthHandler.Fresh (Server.registerDraw call) b.site := by
  rw [Server.drawn, found] at new
  have org : call.fresh 0 ∉ b.drawn := new _ List.mem_cons_self
  have user : call.fresh 1 ∉ b.drawn := new _ (List.mem_cons_of_mem _ List.mem_cons_self)
  have differs : ∀ {id draw : UUID}, id ∈ b.drawn → draw ∉ b.drawn → id ≠ draw := by
    rintro id draw listed unlisted rfl
    exact unlisted listed
  exact ⟨fun u member => ⟨differs (follows.users u member).1 user,
      differs (follows.users u member).2 org⟩,
    fun o member => differs (follows.organizations o member) org⟩

/-- A writing call of the whole system, with the accounts that are there after it. -/
theorem performs (follows : b.Matches read w) {request : Request} {site' : Site}
    {drawn : List UUID} (distinct : drawn.Nodup) (new : ∀ id ∈ drawn, id ∉ b.drawn)
    (listed : request.drawn.Sublist drawn)
    (done : request.perform cron b.now (b.site.database read) = some (site'.database read))
    (organizations : ∀ o ∈ site'.organizations, o.id ∈ drawn ++ b.drawn)
    (users : ∀ u ∈ site'.users, u.id ∈ drawn ++ b.drawn ∧ u.orgId ∈ drawn ++ b.drawn) :
    ∃ moves w', Path (scheduler cron) w moves w' ∧
      Matches read { b with site := site', drawn := drawn ++ b.drawn } w' := by
  obtain ⟨issued, events, fewer, rfl⟩ := follows.world
  have unissued : ∀ id ∈ request.drawn, id ∉ issued :=
    fun id member old => new id (listed.subset member) (fewer old)
  have taken : (scheduler cron).step ((b.world read).withHistory issued events) (.api request) =
      some (({ b with site := site', drawn := drawn ++ b.drawn } : Backend).world read
        |>.withHistory (request.drawn ++ issued) (request.events ++ events)) := by
    refine (if_pos ⟨listed.nodup distinct, unissued⟩).trans ?_
    rw [show ((b.world read).withHistory issued events).db = b.site.database read from rfl,
      show ((b.world read).withHistory issued events).now = b.now from rfl, done]
    rfl
  refine ⟨_, _, .single taken, ⟨_, _, ?_, rfl⟩, organizations, users⟩
  exact List.append_subset.mpr ⟨fun id member => List.mem_append_left _ (listed.subset member),
    fun id member => List.mem_append_right _ (fewer member)⟩

/-- A request is a writing call of the whole system, or nothing. -/
theorem request (follows : b.Matches read w) {call : Call}
    (taken : b.step read server cron (.request call) = some b') :
    ∃ moves w', Path (scheduler cron) w moves w' ∧ Matches read b' w' := by
  simp only [Backend.step] at taken
  split at taken
  next allowed =>
    obtain ⟨distinct, new⟩ := allowed
    cases taken
    have grown : ∀ {id : UUID}, id ∈ b.drawn →
        id ∈ server.drawn (call.arriving cron b.now) ++ b.drawn := List.mem_append_right _
    rcases Server.serve_cases (follows.fresh new) with same | registers |
      ⟨token, claims, authorizes⟩
    · obtain ⟨issued, events, fewer, rfl⟩ := follows.world
      have more : issued ⊆ server.drawn (call.arriving cron b.now) ++ b.drawn :=
        List.Subset.trans fewer (List.subset_append_right _ _)
      refine ⟨[], _, .refl, ⟨issued, events, more, ?_⟩, ?_, ?_⟩
      · rw [same]
        rfl
      · rw [same]
        exact fun o member => grown (follows.organizations o member)
      · rw [same]
        exact fun u member => ⟨grown (follows.users u member).1, grown (follows.users u member).2⟩
    · obtain ⟨req, hash, token, _, free, done⟩ := registers.account
      have draws : server.drawn (call.arriving cron b.now) = [call.fresh 0, call.fresh 1] := by
        rw [Server.drawn, registers.route]
        rfl
      have listed : call.fresh 0 ∈ server.drawn (call.arriving cron b.now) ++ b.drawn ∧
          call.fresh 1 ∈ server.drawn (call.arriving cron b.now) ++ b.drawn := by
        rw [draws]
        simp
      rw [done]
      have founds : (Request.createOrg (call.fresh 0) req.orgName req.orgSlug).drawn.Sublist
          (server.drawn (call.arriving cron b.now)) := by
        rw [draws]
        exact (List.nil_sublist _).cons_cons _
      refine follows.performs distinct new founds ?_ ?_ ?_
      · have created : (b.site.database read).createOrg b.now (call.fresh 0) req.orgName
            req.orgSlug = .ok _ := if_neg free
        simp only [Request.perform, created]
        rfl
      · exact forall_mem_append_singleton (fun o member => grown (follows.organizations o member))
          listed.1
      · exact forall_mem_append_singleton (fun u member =>
          ⟨grown (follows.users u member).1, grown (follows.users u member).2⟩)
          ⟨listed.2, listed.1⟩
    · obtain ⟨request, ids, done, listed⟩ : ∃ request ids,
          Site.Performs read _ b.site _ ids request ∧ ids.Sublist _ :=
        authorizes.write.performs rfl
      obtain ⟨performs, rfl⟩ := done
      refine follows.performs distinct new listed performs ?_ ?_
      · intro o member
        obtain ⟨old, oldMember, same⟩ := authorizes.write.organizations o member
        exact grown (same ▸ follows.organizations old oldMember)
      · intro u member
        have old := follows.users u (authorizes.write.users u member)
        exact ⟨grown old.1, grown old.2⟩
  · cases taken

/-- A step of an engine or a reaper is one of the whole system. -/
theorem internal (follows : b.Matches read w) {action : Action} {history : History}
    (taken : b.step read server cron (.internal action history) = some b') :
    ∃ moves w', Path (scheduler cron) w moves w' ∧ Matches read b' w' := by
  simp only [Backend.step] at taken
  split at taken
  · cases taken
  next internal =>
    obtain ⟨w', steps, taken⟩ := Option.bind_eq_some_iff.mp taken
    split at taken
    next same =>
      cases taken
      obtain ⟨issued, events, fewer, rfl⟩ := follows.world
      obtain ⟨issued', events', steps', fewer'⟩ :=
        World.step_withHistory steps (by simpa using internal) fewer events
      have kept : ∀ {id : UUID}, id ∈ b.drawn → id ∈ w'.issued :=
        World.issued_mono (World.step_moves steps)
      refine ⟨_, _, .single steps', ⟨issued', events', fewer', ?_⟩,
        fun o member => kept (follows.organizations o member),
        fun u member => ⟨kept (follows.users u member).1, kept (follows.users u member).2⟩⟩
      unfold Backend.world
      rw [same]
      rfl
    · cases taken

end Backend.Matches

/-! ## A small backend

An organization registers, and then an engine. -/

namespace BackendScenario

/-- The columns that the whole system knows. -/
def reader : RowReader where
  execution e := ⟨e.jobId, e.workerId.getD 0, e.attempt,
    if e.status = "completed" then .completed else .failed, e.startedAt,
    e.finishedAt, e.error, e.durationMs⟩
  log l := ⟨l.jobId, if l.level = "info" then .info else .error, l.message⟩
  executionJob _ := rfl
  logJob _ := rfl

def empty : Backend :=
  ⟨0, [], Registry.start.site, fun _ => none, fun _ => none, 0⟩

/-- After the registration of the organization. -/
def registered : Backend :=
  { empty with site := ServerScenario.acme, drawn := [1, 2] }

/-- After the registration of the worker, too. -/
def employed : Backend :=
  { registered with
    drawn := [7, 1, 2]
    site := { ServerScenario.acme with
      workers := [⟨7, "worker", .active, 0, 0⟩]
      workerHeartbeats := [⟨7, 0, 0⟩] }
    engines := Function.update (fun _ => none) 7
      (some ⟨Scenario.config, .running, .idle, [], 0, 0⟩) }

theorem run_employed : Run (backend plainServer Scenario.cron reader)
    [(registered, .internal (.register 7 Scenario.config) ⟨[], [], []⟩),
      (empty, .request ServerScenario.registration)] employed := by
  have arrives : ServerScenario.registration.arriving Scenario.cron 0 =
      ServerScenario.registration := rfl
  have first : (backend plainServer Scenario.cron reader).step empty
      (.request ServerScenario.registration) = some registered := by
    simp only [backend, Backend.step, empty, arrives]
    rw [ServerScenario.serve_registration, if_pos]
    · rfl
    · exact ⟨by decide, fun _ _ => List.not_mem_nil⟩
  have second : (backend plainServer Scenario.cron reader).step registered
      (.internal (.register 7 Scenario.config) ⟨[], [], []⟩) = some employed := by
    have registers : (registered.world reader).step Scenario.cron (.register 7 Scenario.config) =
        some (employed.world reader) := rfl
    have same : (registered.refreshed (employed.world reader).db ⟨[], [], []⟩).database reader =
        (employed.world reader).db := rfl
    simp only [backend, Backend.step, Action.isRequest, registers, Option.bind_some, if_pos same]
    rfl
  have initial : (backend plainServer Scenario.cron reader).initial empty := ⟨0, [], rfl⟩
  exact ((Run.start initial).next _ first).next _ second

end BackendScenario

/-- **The backend is the whole system.** Every run of the backend, with requests of any kind and
engines and reapers in any order, is a run of the whole system that ends in the same state. -/
theorem backend_simulated {server : Server} {cron : CronParser}
    {trace : List (Backend × BackendAction)} {b : Backend}
    (run : Run (backend server cron read) trace b) :
    ∃ moves w, Run (scheduler cron) moves w ∧ b.Matches read w := by
  have always : Meets (fun _ _ => True) trace := fun _ _ => trivial
  refine run.simulated always ?_ ?_
  · rintro _ ⟨now, policies, rfl⟩
    exact ⟨World.start now policies, ⟨now, policies, rfl⟩, ⟨[], [], List.Subset.refl _, rfl⟩,
      List.forall_mem_nil _, List.forall_mem_nil _⟩
  · intro b a b' w taken _ follows
    cases a with
    | request call => exact follows.request taken
    | internal action history =>
        have step : b.step read server cron (.internal action history) = some b' := taken
        exact follows.internal step

open BackendScenario in
theorem backend_simulated_employed :
    employed.site.organizations ≠ [] ∧ employed.engines 7 ≠ none ∧
      ∃ moves w, Run (scheduler Scenario.cron) moves w ∧ employed.Matches reader w :=
  ⟨List.cons_ne_nil _ _, by simp [employed], backend_simulated reader run_employed⟩

end JobScheduler
