import JobScheduler.Dashboard.Router
import JobScheduler.Transition.Run
import Mathlib.Tactic.IntervalCases

/-!
# Seeding the demo data

`POST /api/setup` of `dashboard/src/app/api/setup/route.ts` with `ensureSchema` and `seedDemo` of
`dashboard/src/server/setup.ts`. The rows are inserted one statement at a time, and each statement
is a transaction of its own: any number of requests interleave at statements, a statement may fail,
and a request may be killed between two of them, though not after the last one.

The only guard is the organization. Its `INSERT` lets one request through, the first `SELECT` of
the others only saves them the attempt, and nobody takes up what a request that got through has left
undone (`seeded_once`).
-/

set_option autoImplicit false

namespace JobScheduler

open Relational Transition

namespace Dashboard

/-! ## The rows -/

/-- A row of one of the tables that `seedDemo` writes. -/
inductive DemoRow where
  | organization (row : Organization)
  | user (row : User)
  | project (row : Project)
  | queue (row : Queue)
  | job (row : Job)
  | worker (row : Worker)

/-- An element of `queues`. -/
structure DemoQueue where
  name : String
  slug : String
  limit : Int

def demoQueues : List DemoQueue :=
  [⟨"Emails", "emails", 10⟩, ⟨"Webhooks", "webhooks", 5⟩, ⟨"Reports", "reports", 3⟩]

section Rows

variable (id : UUID) (now : Timestamptz)

def demoOrganization : Organization := ⟨id, "Demo Corp", "demo", now, now⟩

def demoUser (orgId : UUID) : User :=
  ⟨id, orgId, "admin@demo.com", "Demo Admin", "admin", "demo", now, now⟩

def demoProject (orgId : UUID) : Project :=
  ⟨id, orgId, "Platform", "platform", some "Demo project", now, now⟩

def demoQueue (projectId : UUID) (q : DemoQueue) : Queue :=
  ⟨id, projectId, q.name, q.slug, none, 5, some q.limit, false, now, now⟩

/-- `JSON.stringify({ type: "sleep", duration_ms: 200 + i * 100 })`. -/
def demoPayload (i : Nat) : Json :=
  .object [("type", .string "sleep"), ("duration_ms", .number (200 + i * 100) 0)]

def demoJob (queueId : UUID) (i : Nat) : Job where
  id := id
  queueId := queueId
  status := .queued
  priority := 5
  payload := demoPayload i
  idempotencyKey := none
  nextRunAt := some now
  attempts := 0
  maxAttempts := 3
  retryPolicyId := none
  workerId := none
  claimedAt := none
  leaseExpiresAt := none
  completedAt := none
  failedAt := none
  errorMessage := none
  cronExpr := none
  batchId := none
  createdAt := now
  updatedAt := now

def demoWorker : Worker := ⟨id, "vercel-worker-1", .active, now, now⟩

end Rows

namespace DemoRow

variable (site : Site)

/-- The constraint that an `INSERT` of the row violates: a primary key, a unique index or a
reference. -/
def violation : DemoRow → Option StoreError
  | .organization row =>
      if ∃ o ∈ site.organizations, o.id = row.id ∨ o.slug = row.slug then some .uniqueViolation
      else none
  | .user row =>
      if ∃ u ∈ site.users, u.id = row.id ∨ u.orgId = row.orgId ∧ u.email = row.email then
        some .uniqueViolation
      else if ∃ o ∈ site.organizations, o.id = row.orgId then none
      else some .foreignKeyViolation
  | .project row =>
      if ∃ p ∈ site.projects, p.id = row.id ∨ p.orgId = row.orgId ∧ p.slug = row.slug then
        some .uniqueViolation
      else if ∃ o ∈ site.organizations, o.id = row.orgId then none
      else some .foreignKeyViolation
  | .queue row =>
      if ∃ q ∈ site.queues, q.id = row.id ∨ q.projectId = row.projectId ∧ q.slug = row.slug then
        some .uniqueViolation
      else if ∃ p ∈ site.projects, p.id = row.projectId then none
      else some .foreignKeyViolation
  | .job row =>
      if ∃ j ∈ site.jobs, j.id = row.id then some .uniqueViolation
      else if ∃ q ∈ site.queues, q.id = row.queueId then none
      else some .foreignKeyViolation
  | .worker row =>
      if ∃ w ∈ site.workers, w.id = row.id then some .uniqueViolation else none

/-- The tables with the row. -/
def insert : DemoRow → Site
  | .organization row => { site with organizations := site.organizations ++ [row] }
  | .user row => { site with users := site.users ++ [row] }
  | .project row => { site with projects := site.projects ++ [row] }
  | .queue row => { site with queues := site.queues ++ [row] }
  | .job row => { site with jobs := site.jobs ++ [row] }
  | .worker row => { site with workers := site.workers ++ [row] }

end DemoRow

/-- The tables with these rows, in this order. -/
def insertAll (site : Site) (rows : List DemoRow) : Site :=
  rows.foldl (fun site row => row.insert site) site

/-- An identifier and an instant for each row. -/
abbrev Draws := Nat → UUID × Timestamptz

/-- **The demo data**: an organization with a user and a project, three queues with three jobs each,
and a worker. -/
def demoRows (draws : Draws) : List DemoRow :=
  let id (n : Nat) := (draws n).1
  let now (n : Nat) := (draws n).2
  [.organization (demoOrganization (id 0) (now 0)), .user (demoUser (id 1) (now 1) (id 0)),
    .project (demoProject (id 2) (now 2) (id 0))] ++
  (demoQueues.zipIdx.flatMap fun (q, n) =>
    let first := 3 + 4 * n
    .queue (demoQueue (id first) (now first) (id 2) q) ::
      (List.range 3).map fun i =>
        .job (demoJob (id (first + 1 + i)) (now (first + 1 + i)) (id first) i)) ++
  [.worker (demoWorker (id 15) (now 15))]

/-! ## The request -/

/-- The answers of `POST`. -/
inductive SetupAnswer where
  | forbidden
  /-- `{ seeded: false }` -/
  | unseeded
  | seeded (user : User)
  | failed (message : String)

/-- The next statement of a request. -/
inductive SetupPc where
  /-- The statements of `ensureSchema`. -/
  | schema
  /-- `SELECT id FROM organizations WHERE slug = 'demo'`. -/
  | lookup
  | organization
  | user (orgId : UUID)
  | project (orgId : UUID) (admin : User)
  | queue (admin : User) (projectId : UUID) (q : DemoQueue) (rest : List DemoQueue)
  | job (admin : User) (projectId queueId : UUID) (i : Fin 3) (rest : List DemoQueue)
  | worker (admin : User)
  | answered (answer : SetupAnswer)
  | killed

namespace SetupPc

/-- The row of the next `INSERT`, with the identifier the server draws. -/
def row (id : UUID) (now : Timestamptz) : SetupPc → Option DemoRow
  | .organization => some (.organization (demoOrganization id now))
  | .user orgId => some (.user (demoUser id now orgId))
  | .project orgId _ => some (.project (demoProject id now orgId))
  | .queue _ projectId q _ => some (.queue (demoQueue id now projectId q))
  | .job _ _ queueId i _ => some (.job (demoJob id now queueId i))
  | .worker _ => some (.worker (demoWorker id now))
  | _ => none

/-- The `for` loop over the queues. -/
def loop (admin : User) (projectId : UUID) : List DemoQueue → SetupPc
  | [] => .worker admin
  | q :: rest => .queue admin projectId q rest

/-- Where the request goes when its `INSERT` has returned this identifier. -/
def inserted (id : UUID) (now : Timestamptz) : SetupPc → SetupPc
  | .organization => .user id
  | .user orgId => .project orgId (demoUser id now orgId)
  | .project _ admin => loop admin id demoQueues
  | .queue admin projectId _ rest => .job admin projectId id 0 rest
  | .job admin projectId queueId i rest =>
      if more : i.val + 1 < 3 then .job admin projectId queueId ⟨i + 1, more⟩ rest
      else loop admin projectId rest
  | .worker admin => .answered (.seeded admin)
  | pc => pc

/-- The request has been answered, or nobody executes it any more. -/
def ended : SetupPc → Bool
  | .answered _ | .killed => true
  | _ => false

end SetupPc

/-- A request with the rows it has inserted. -/
structure SetupCall where
  pc : SetupPc
  rows : List DemoRow

/-- The tables and the requests. -/
structure Setups where
  site : Site
  calls : List SetupCall

/-- `SETUP_SECRET` and `CRON_SECRET`, empty when they are not set, and the text of a violated
constraint. -/
structure SetupEnv where
  setupSecret : String
  cronSecret : String
  describe : StoreError → String

/-- `POST`: the request is let in. -/
def SetupEnv.Admits (env : SetupEnv) (authorization : Option String) : Prop :=
  let secret := if env.setupSecret = "" then env.cronSecret else env.setupSecret
  secret = "" ∨ authorization = some ("Bearer " ++ secret)

instance (env : SetupEnv) : DecidablePred env.Admits :=
  fun _ => inferInstanceAs (Decidable (_ ∨ _))

inductive SetupAction where
  | request (authorization : Option String)
  /-- The next statement of a request, with the identifier it draws and the message of the server
  if it fails. -/
  | statement (index : Nat) (id : UUID) (now : Timestamptz) (failure : Option String)
  | kill (index : Nat)

/-- A statement of a request. -/
def SetupCall.advance (env : SetupEnv) (site : Site) (id : UUID) (now : Timestamptz)
    (call : SetupCall) : Option (Site × SetupCall) :=
  match call.pc with
  | .answered _ | .killed => none
  -- `CREATE … IF NOT EXISTS`
  | .schema => some (site, { call with pc := .lookup })
  | .lookup =>
      if ∃ o ∈ site.organizations, o.slug = "demo" then
        some (site, { call with pc := .answered .unseeded })
      else some (site, { call with pc := .organization })
  | pc =>
      (pc.row id now).map fun row =>
        match row.violation site with
        | some e => (site, { call with pc := .answered (.failed (env.describe e)) })
        | none => (row.insert site, ⟨pc.inserted id now, call.rows ++ [row]⟩)

/-- A request arrives, runs its next statement, fails in it before it has an effect, or is killed
before it. The last `INSERT` and the answer are one step, so that a kill and a lost reply between
them are none. -/
def Setups.step (env : SetupEnv) (s : Setups) : SetupAction → Option Setups
  | .request authorization =>
      let pc : SetupPc := if env.Admits authorization then .schema else .answered .forbidden
      some { s with calls := s.calls ++ [⟨pc, []⟩] }
  | .statement index id now failure =>
      match s.calls[index]? with
      | none => none
      | some call =>
          if call.pc.ended then none
          else
            match failure with
            | some message => some { s with
                calls := s.calls.set index { call with pc := .answered (.failed message) } }
            | none => (call.advance env s.site id now).map fun (site, call') =>
                ⟨site, s.calls.set index call'⟩
  | .kill index =>
      match s.calls[index]? with
      | none => none
      | some call =>
          if call.pc.ended then none
          else some { s with calls := s.calls.set index { call with pc := .killed } }

/-- Requests to set up these tables. -/
def setups (env : SetupEnv) (start : Site) : System Setups SetupAction where
  initial s := s.site = start ∧ s.calls = []
  step := Setups.step env

/-! ## What a step can do -/

namespace SetupPc

/-- The request was stopped between two statements, or by one that failed. -/
def Stopped : SetupPc → Prop
  | .killed | .answered (.failed _) => True
  | _ => False

/-- The request has inserted nothing and is before the organization, or over. -/
def Waits : SetupPc → Prop
  | .schema | .lookup | .organization | .killed => True
  | .answered (.seeded _) => False
  | .answered _ => True
  | _ => False

variable {pc : SetupPc}

theorem Stopped.ended (stopped : pc.Stopped) : pc.ended = true := by
  cases pc with
  | answered | killed => rfl
  | _ => cases stopped

theorem Stopped.waits (stopped : pc.Stopped) : pc.Waits := by
  cases pc with
  | answered answer =>
      cases answer with
      | failed => trivial
      | _ => cases stopped
  | killed => trivial
  | _ => cases stopped

end SetupPc

/-- The outcomes of a statement that the server answers. -/
inductive SetupCall.Advances (site : Site) (id : UUID) (now : Timestamptz) (call : SetupCall) :
    Site → SetupCall → Prop where
  | created (before : call.pc = .schema) :
      Advances site id now call site { call with pc := .lookup }
  | found (before : call.pc = .lookup) :
      Advances site id now call site { call with pc := .answered .unseeded }
  | missing (before : call.pc = .lookup) :
      Advances site id now call site { call with pc := .organization }
  | refused (message : String) :
      Advances site id now call site { call with pc := .answered (.failed message) }
  | inserted (row : DemoRow) (next : call.pc.row id now = some row)
      (free : row.violation site = none) :
      Advances site id now call (row.insert site) ⟨call.pc.inserted id now, call.rows ++ [row]⟩

theorem SetupCall.advances_of_advance {env : SetupEnv} {site site' : Site} {id : UUID}
    {now : Timestamptz} {call call' : SetupCall}
    (taken : call.advance env site id now = some (site', call')) :
    call.Advances site id now site' call' := by
  unfold advance at taken
  split at taken
  · cases taken
  · cases taken
  next before =>
    cases taken
    exact .created before
  next before =>
    split at taken
    · cases taken
      exact .found before
    · cases taken
      exact .missing before
  · obtain ⟨row, next, done⟩ := Option.map_eq_some_iff.mp taken
    split at done
    · cases done
      exact .refused _
    next free =>
      cases done
      exact .inserted row next free

namespace Setups

/-- The outcomes of a step. -/
inductive Moves (s : Setups) : Setups → Prop where
  | requested (pc : SetupPc) (waits : pc.Waits) :
      Moves s { s with calls := s.calls ++ [⟨pc, []⟩] }
  | stopped (index : Nat) (call : SetupCall) (pc : SetupPc) (found : s.calls[index]? = some call)
      (running : call.pc.ended = false) (stopped : pc.Stopped) :
      Moves s { s with calls := s.calls.set index { call with pc := pc } }
  | advanced (index : Nat) (id : UUID) (now : Timestamptz) (call call' : SetupCall) (site : Site)
      (found : s.calls[index]? = some call) (running : call.pc.ended = false)
      (advances : call.Advances s.site id now site call') :
      Moves s ⟨site, s.calls.set index call'⟩

theorem step_moves {env : SetupEnv} {s s' : Setups} {a : SetupAction}
    (taken : s.step env a = some s') : Moves s s' := by
  cases a with
  | request authorization =>
      cases taken
      refine .requested _ ?_
      split <;> trivial
  | statement index id now failure =>
      simp only [step] at taken
      split at taken
      · cases taken
      next call found =>
        split at taken
        · cases taken
        next running =>
          rw [Bool.not_eq_true] at running
          split at taken
          · cases taken
            exact .stopped index call _ found running trivial
          · obtain ⟨⟨site, call'⟩, advance, rfl⟩ := Option.map_eq_some_iff.mp taken
            exact .advanced index id now call call' site found running
              (SetupCall.advances_of_advance advance)
  | kill index =>
      simp only [step] at taken
      split at taken
      · cases taken
      next call found =>
        split at taken
        · cases taken
        next running =>
          cases taken
          exact .stopped index call _ found (by simpa using running) trivial

end Setups

/-! ## The rows in their order -/

/-- Where a request is when it has inserted so many rows. -/
def seedPoint (draws : Draws) : Nat → SetupPc
  | 0 => .organization
  | n + 1 => (seedPoint draws n).inserted (draws n).1 (draws n).2

theorem length_demoRows (draws : Draws) : (demoRows draws).length = 16 := rfl

/-- At the end the request is answered. -/
theorem seedPoint_last (draws : Draws) :
    seedPoint draws 16 = .answered (.seeded (demoUser (draws 1).1 (draws 1).2 (draws 0).1)) := rfl

/-- **The program inserts the demo data in its order.** -/
theorem row_seedPoint (draws : Draws) {n : Nat} (within : n < 16) :
    (seedPoint draws n).row (draws n).1 (draws n).2 = (demoRows draws)[n]? := by
  interval_cases n <;> rfl

/-- Before the end it goes on. -/
theorem running_seedPoint (draws : Draws) {n : Nat} (within : n < 16) :
    (seedPoint draws n).ended = false := by
  interval_cases n <;> rfl

section Draws

variable {draws draws' : Draws} {k : Nat}

theorem seedPoint_congr (same : ∀ n < k, draws n = draws' n) :
    seedPoint draws k = seedPoint draws' k := by
  induction k with
  | zero => rfl
  | succ n ih =>
      simp only [seedPoint]
      rw [ih fun m below => same m (Nat.lt_succ_of_lt below), same n (Nat.lt_succ_self n)]

/-- The first rows depend on the first draws. -/
theorem take_demoRows_congr (within : k ≤ 16) (same : ∀ n < k, draws n = draws' n) :
    (demoRows draws).take k = (demoRows draws').take k := by
  apply List.ext_getElem?
  intro n
  by_cases below : n < k
  · rw [List.getElem?_take_of_lt below, List.getElem?_take_of_lt below]
    have inside := Nat.lt_of_lt_of_le below within
    rw [← row_seedPoint draws inside, ← row_seedPoint draws' inside, same n below,
      seedPoint_congr fun m earlier => same m (Nat.lt_trans earlier below)]
  · rw [List.getElem?_take_eq_none (Nat.not_lt.mp below),
      List.getElem?_take_eq_none (Nat.not_lt.mp below)]

end Draws

/-! ## One request gets through -/

/-- There is an organization `demo`. -/
def HasDemo (site : Site) : Prop := ∃ o ∈ site.organizations, o.slug = "demo"

theorem HasDemo.insert {site : Site} (demo : HasDemo site) (row : DemoRow) :
    HasDemo (row.insert site) := by
  obtain ⟨o, member, slug⟩ := demo
  cases row with
  | organization => exact ⟨o, List.mem_append_left _ member, slug⟩
  | _ => exact ⟨o, member, slug⟩

theorem insertAll_concat (site : Site) (rows : List DemoRow) (row : DemoRow) :
    insertAll site (rows ++ [row]) = row.insert (insertAll site rows) := by
  simp [insertAll]

/-- A request that has inserted nothing and does not come after the organization. -/
def SetupCall.Idle (call : SetupCall) : Prop := call.pc.Waits ∧ call.rows = []

/-- A request has inserted the first `k` rows of the demo data, and the others nothing. It is where
these rows have led it, or it was stopped there. -/
structure Setups.Seeds (start : Site) (s : Setups) (index k : Nat) (call : SetupCall)
    (draws : Draws) : Prop where
  found : s.calls[index]? = some call
  begun : 0 < k
  within : k ≤ 16
  rows : call.rows = (demoRows draws).take k
  point : call.pc = seedPoint draws k ∨ k < 16 ∧ call.pc.Stopped
  site : s.site = insertAll start call.rows
  demo : HasDemo s.site
  unseeded : ¬ HasDemo start
  others : ∀ other call', other ≠ index → s.calls[other]? = some call' → call'.Idle

/-- No request has got through, or exactly one. -/
inductive Setups.Guarded (start : Site) (s : Setups) : Prop where
  | waiting (site : s.site = start) (idle : ∀ call ∈ s.calls, call.Idle)
  | seeding (index k : Nat) (call : SetupCall) (draws : Draws)
      (seeds : s.Seeds start index k call draws)

/-- A step of a request that waits: it goes on waiting, or its organization is inserted. -/
theorem SetupCall.Idle.advances {site site' : Site} {id : UUID} {now : Timestamptz}
    {call call' : SetupCall} (idle : call.Idle)
    (advances : call.Advances site id now site' call') :
    site' = site ∧ call'.Idle ∨
      ¬ HasDemo site ∧ site' = (DemoRow.organization (demoOrganization id now)).insert site ∧
        call' = ⟨.user id, [.organization (demoOrganization id now)]⟩ := by
  obtain ⟨pc, rows⟩ := call
  obtain ⟨waits, empty⟩ := idle
  cases empty
  cases advances with
  | created before => exact .inl ⟨rfl, trivial, rfl⟩
  | found before => exact .inl ⟨rfl, trivial, rfl⟩
  | missing before => exact .inl ⟨rfl, trivial, rfl⟩
  | refused message => exact .inl ⟨rfl, trivial, rfl⟩
  | inserted row next free =>
      cases pc with
      | organization =>
          cases next
          refine .inr ⟨?_, rfl, rfl⟩
          rintro ⟨o, member, slug⟩
          have clash : ∃ o ∈ site.organizations,
              o.id = (demoOrganization id now).id ∨ o.slug = (demoOrganization id now).slug :=
            ⟨o, member, .inr slug⟩
          rw [DemoRow.violation, if_pos clash] at free
          cases free
      | schema | lookup | killed | answered => cases next
      | _ => cases waits

namespace Setups

variable {start : Site} {s s' : Setups} {index k : Nat} {call : SetupCall} {draws : Draws}

/-- The requests after one of them has moved. -/
theorem idle_set {other : Nat} {call' : SetupCall} (idle : ∀ call ∈ s.calls, call.Idle)
    (idle' : call'.Idle) : ∀ call ∈ s.calls.set other call', call.Idle := by
  intro call member
  rcases List.mem_or_eq_of_mem_set member with old | rfl
  · exact idle call old
  · exact idle'

/-- Another request moves and inserts nothing. -/
theorem Seeds.other (seeds : s.Seeds start index k call draws) {moved : Nat} {call' : SetupCall}
    (different : moved ≠ index) (idle : call'.Idle) :
    Seeds start { s with calls := s.calls.set moved call' } index k call draws :=
  { seeds with
    found := by
      rw [List.getElem?_set_ne different]
      exact seeds.found
    others := by
      intro other call'' apart found
      by_cases same : moved = other
      · subst same
        rw [List.getElem?_set_self'] at found
        obtain ⟨_, _, rfl⟩ := Option.map_eq_some_iff.mp found
        exact idle
      · rw [List.getElem?_set_ne same] at found
        exact seeds.others other call'' apart found }

/-- The request itself moves. -/
theorem others_set (others : ∀ other call', other ≠ index → s.calls[other]? = some call' →
      call'.Idle) {moved : SetupCall} (other : Nat) (call' : SetupCall) (apart : other ≠ index)
    (found : (s.calls.set index moved)[other]? = some call') : call'.Idle := by
  rw [List.getElem?_set_ne (Ne.symm apart)] at found
  exact others other call' apart found

theorem set_found (found : s.calls[index]? = some call) (moved : SetupCall) :
    (s.calls.set index moved)[index]? = some moved :=
  List.getElem?_set_self (List.getElem?_eq_some_iff.mp found).1

/-- While it runs there are rows left, and it is where the inserted ones have led it. -/
theorem Seeds.running (seeds : s.Seeds start index k call draws) (running : call.pc.ended = false) :
    k < 16 ∧ call.pc = seedPoint draws k := by
  rcases seeds.point with point | ⟨_, stopped⟩
  · refine ⟨Nat.lt_of_le_of_ne seeds.within ?_, point⟩
    -- with all rows inserted it has been answered
    rintro rfl
    rw [point, seedPoint_last] at running
    cases running
  · rw [stopped.ended] at running
    cases running

/-- The request is stopped. -/
theorem Seeds.stop (seeds : s.Seeds start index k call draws) (running : call.pc.ended = false)
    {pc : SetupPc} (stopped : pc.Stopped) :
    Seeds start { s with calls := s.calls.set index { call with pc := pc } } index k
      { call with pc := pc } draws :=
  { seeds with
    found := set_found seeds.found _
    point := .inr ⟨(seeds.running running).1, stopped⟩
    others := others_set seeds.others }

/-- **The next row of the demo data.** -/
theorem Seeds.next (seeds : s.Seeds start index k call draws) (running : call.pc.ended = false)
    {id : UUID} {now : Timestamptz} {row : DemoRow} (next : call.pc.row id now = some row) :
    ∃ draws', Seeds start ⟨row.insert s.site,
        s.calls.set index ⟨call.pc.inserted id now, call.rows ++ [row]⟩⟩ index (k + 1)
      ⟨call.pc.inserted id now, call.rows ++ [row]⟩ draws' := by
  obtain ⟨below, point⟩ := seeds.running running
  let draws' : Draws := Function.update draws k (id, now)
  have drawn : draws' k = (id, now) := Function.update_self k (id, now) draws
  have before : ∀ n < k, draws n = draws' n := fun n earlier =>
    (Function.update_of_ne (Nat.ne_of_lt earlier) (id, now) draws).symm
  have point' : call.pc = seedPoint draws' k := point.trans (seedPoint_congr before)
  have placed : (demoRows draws')[k]? = some row := by
    rw [← row_seedPoint draws' below, ← point', drawn]
    exact next
  refine ⟨draws', ⟨set_found seeds.found _, Nat.succ_pos k, below, ?_, ?_, ?_,
    seeds.demo.insert row, seeds.unseeded, others_set seeds.others⟩⟩
  · rw [List.take_add_one, placed, seeds.rows, take_demoRows_congr seeds.within before]
    rfl
  · refine .inl ?_
    rw [seedPoint, ← point', drawn]
  · rw [insertAll_concat, ← seeds.site]

/-- While it runs it is before an `INSERT`. -/
theorem Seeds.inserting (seeds : s.Seeds start index k call draws)
    (running : call.pc.ended = false) : ∃ id now row, call.pc.row id now = some row := by
  obtain ⟨below, point⟩ := seeds.running running
  refine ⟨(draws k).1, (draws k).2, (demoRows draws).get ⟨k, below⟩, ?_⟩
  rw [point, row_seedPoint draws below]
  exact List.getElem?_eq_getElem below

/-- **A step while a request has got through.** -/
theorem Seeds.step (seeds : s.Seeds start index k call draws) (moves : Moves s s') :
    ∃ k' call' draws', s'.Seeds start index k' call' draws' ∧
      (call.pc.ended = true → call' = call ∧ s'.site = s.site) := by
  cases moves with
  | requested pc waits =>
      refine ⟨k, call, draws, { seeds with found := ?_, others := ?_ }, fun _ => ⟨rfl, rfl⟩⟩
      · exact (List.getElem?_append_left (List.getElem?_eq_some_iff.mp seeds.found).1).trans
          seeds.found
      · intro other call' apart found
        rw [List.getElem?_append] at found
        split at found
        · exact seeds.others other call' apart found
        · rw [List.mem_singleton.mp (List.mem_of_getElem? found)]
          exact ⟨waits, rfl⟩
  | stopped moved call' pc found running stopped =>
      by_cases same : moved = index
      · subst same
        obtain rfl := Option.some.inj (found.symm.trans seeds.found)
        refine ⟨k, _, draws, seeds.stop running stopped, fun over' => ?_⟩
        rw [running] at over'
        cases over'
      · have idle := seeds.others moved call' same found
        exact ⟨k, call, draws, seeds.other same ⟨stopped.waits, idle.2⟩, fun _ => ⟨rfl, rfl⟩⟩
  | advanced moved id now call' call'' site found running advances =>
      by_cases same : moved = index
      · subst same
        obtain rfl := Option.some.inj (found.symm.trans seeds.found)
        have open' : call'.pc.ended = true → call'' = call' ∧ site = s.site := by
          intro over'
          rw [running] at over'
          cases over'
        cases advances with
        | created before | found before | missing before =>
            obtain ⟨_, _, row, next⟩ := seeds.inserting running
            rw [before] at next
            cases next
        | refused message => exact ⟨k, _, draws, seeds.stop running trivial, open'⟩
        | inserted row next =>
            obtain ⟨draws', seeds'⟩ := seeds.next running next
            exact ⟨k + 1, _, draws', seeds', open'⟩
      · have idle := seeds.others moved call' same found
        rcases idle.advances advances with ⟨rfl, idle'⟩ | ⟨free, _⟩
        · exact ⟨k, call, draws, seeds.other same idle', fun _ => ⟨rfl, rfl⟩⟩
        · exact absurd seeds.demo free

/-- **Every step.** -/
theorem Guarded.step (guarded : s.Guarded start) (moves : Moves s s') : s'.Guarded start := by
  cases guarded with
  | waiting site idle =>
      cases moves with
      | requested pc waits =>
          refine .waiting site ?_
          intro call member
          rcases List.mem_append.mp member with old | new
          · exact idle call old
          · rw [List.mem_singleton.mp new]
            exact ⟨waits, rfl⟩
      | stopped index call pc found running stopped =>
          refine .waiting site (idle_set idle ⟨stopped.waits, ?_⟩)
          exact (idle call (List.mem_of_getElem? found)).2
      | advanced index id now call call' site' found running advances =>
          rcases (idle call (List.mem_of_getElem? found)).advances advances with
            ⟨rfl, idle'⟩ | ⟨free, rfl, rfl⟩
          · exact .waiting site (idle_set idle idle')
          · refine .seeding index 1 _ (fun _ => (id, now)) ⟨set_found found _, Nat.one_pos,
              by decide, rfl, .inl rfl, ?_, ?_, ?_, ?_⟩
            · rw [site]
              rfl
            · exact ⟨_, List.mem_append_right _ (List.mem_singleton_self _), rfl⟩
            · rw [← site]
              exact free
            · exact others_set fun other call' _ found' =>
                idle call' (List.mem_of_getElem? found')
  | seeding index k call draws seeds =>
      obtain ⟨k', call', draws', seeds', _⟩ := seeds.step moves
      exact .seeding index k' call' draws' seeds'

theorem guarded_of_run {env : SetupEnv} {trace : List (Setups × SetupAction)} {last : Setups}
    (run : Run (setups env start) trace last) : last.Guarded start := by
  have always : Meets (fun _ _ => True) trace := fun _ _ => trivial
  refine run.invariant always ?_ ?_
  · rintro s ⟨site, calls⟩
    refine .waiting site ?_
    rw [calls]
    intro call member
    cases member
  · exact fun s a s' taken _ guarded => guarded.step (step_moves taken)

/-- The request that got through is the only one with rows. -/
theorem Seeds.unique (seeds : s.Seeds start index k call draws) {call' : SetupCall}
    (member : call' ∈ s.calls) (wrote : call'.rows ≠ []) : call' = call := by
  obtain ⟨other, found⟩ := List.getElem?_of_mem member
  by_cases same : other = index
  · rw [same, seeds.found] at found
    exact (Option.some.inj found).symm
  · exact absurd (seeds.others other call' same found).2 wrote

theorem Seeds.wrote (seeds : s.Seeds start index k call draws) : call.rows.length = k := by
  rw [seeds.rows, List.length_take, length_demoRows]
  exact Nat.min_eq_left seeds.within

/-- It is answered with the user exactly when it has inserted everything. -/
theorem Seeds.seeded_iff (seeds : s.Seeds start index k call draws) :
    (∃ admin, call.pc = .answered (.seeded admin)) ↔ call.rows = demoRows draws := by
  have complete : call.rows = demoRows draws ↔ k = 16 := by
    constructor
    · intro all
      have length := seeds.wrote
      rw [all, length_demoRows] at length
      exact length.symm
    · rintro rfl
      rw [seeds.rows]
      rfl
  rw [complete]
  constructor
  · rintro ⟨admin, answered⟩
    rcases Nat.lt_or_eq_of_le seeds.within with below | same
    · rcases seeds.point with point | ⟨_, stopped⟩
      · have running := running_seedPoint draws below
        rw [← point, answered] at running
        cases running
      · rw [answered] at stopped
        cases stopped
    · exact same
  · rintro rfl
    rcases seeds.point with point | ⟨below, _⟩
    · exact ⟨_, point.trans (seedPoint_last draws)⟩
    · exact absurd below (Nat.lt_irrefl 16)

/-- Nobody takes up what it left undone. -/
theorem Seeds.abandoned {env : SetupEnv} {more : List (Setups × SetupAction)} {final : Setups}
    (seeds : s.Seeds start index k call draws) (ended : call.pc.ended = true)
    (path : Path (setups env start) s more final) : final.site = s.site := by
  have always : Meets (fun _ _ => True) more := fun _ _ => trivial
  have throughout : Throughout
      (fun t => t.site = s.site ∧ ∃ k draws, t.Seeds start index k call draws) more final := by
    refine path.throughout always ⟨rfl, k, draws, seeds⟩ ?_
    rintro t a t' taken _ ⟨site, k, draws, seeds⟩
    obtain ⟨k', call', draws', seeds', kept⟩ := seeds.step (step_moves taken)
    obtain ⟨rfl, same⟩ := kept ended
    exact ⟨same.trans site, k', draws', seeds'⟩
  exact throughout.2.1

end Setups

/-! ## The login of the demo -/

/-- The user of a row of `users`. -/
def DemoRow.user? : DemoRow → Option User
  | .user row => some row
  | _ => none

theorem users_insertAll (site : Site) (rows : List DemoRow) :
    (insertAll site rows).users = site.users ++ rows.filterMap DemoRow.user? := by
  induction rows generalizing site with
  | nil => exact (List.append_nil _).symm
  | cons row rest ih =>
      have step : insertAll site (row :: rest) = insertAll (row.insert site) rest := rfl
      rw [step, ih]
      cases row with
      | user row => exact List.append_assoc _ [row] _
      | _ => rfl

/-- In the mode for demonstrations everybody is let in when there is a user `admin@demo.com`, and
nobody when there is no user at all. -/
theorem demo_login {env : Env} (demo : env.demoAuth = true) {site : Site} {fields : Fields}
    (typed : fields.email ≠ "" ∧ fields.password ≠ "") :
    ((∃ u ∈ site.users, u.email = "admin@demo.com") →
        (login env site (.ok (some fields))).1.status = 200) ∧
      (site.users = [] → (login env site (.ok (some fields))).1.status = 401) := by
  simp only [login, attempt, members, demo, if_true]
  rw [if_neg (by simp [typed])]
  constructor
  · rintro ⟨u, member, email⟩
    cases found : site.users.find? (·.email = fields.email) with
    | some user => rfl
    | none =>
        cases fallback : site.users.find? (·.email = "admin@demo.com") with
        | some user => rfl
        | none => exact absurd (decide_eq_true email) (List.find?_eq_none.mp fallback u member)
  · intro none
    rw [none]
    rfl

/-- The demo login works from the second row on. -/
theorem Setups.Seeds.login {start : Site} {s : Setups} {index k : Nat} {call : SetupCall}
    {draws : Draws} (seeds : s.Seeds start index k call draws) (nobody : start.users = [])
    {env : Env} (demo : env.demoAuth = true) {fields : Fields}
    (typed : fields.email ≠ "" ∧ fields.password ≠ "") :
    (login env s.site (.ok (some fields))).1.status = if 2 ≤ k then 200 else 401 := by
  obtain ⟨someone, noOne⟩ := @demo_login env demo s.site fields typed
  have users : s.site.users = ((demoRows draws).take k).filterMap DemoRow.user? := by
    rw [seeds.site, users_insertAll, nobody, seeds.rows]
    rfl
  by_cases far : 2 ≤ k
  · rw [if_pos far]
    apply someone
    obtain ⟨more, rfl⟩ := Nat.exists_eq_add_of_le' far
    refine ⟨demoUser (draws 1).1 (draws 1).2 (draws 0).1, ?_, rfl⟩
    rw [users]
    exact List.mem_cons_self
  · rw [if_neg far]
    apply noOne
    have first : k = 1 := by
      have begun := seeds.begun
      omega
    rw [users, first]
    rfl

/-- **The demo data is seeded by one request or by none.** However the requests interleave, fail
and are killed:

- the rows all stem from one request; they are a beginning of the demo data, in its order, and the
  request answers that it has seeded exactly when they are all of it;
- when this request stops early, no later request inserts the rest;
- on tables without users, the demo login lets everybody in from its second row on and nobody
  before. -/
theorem seeded_once {env : SetupEnv} {start : Site} {trace : List (Setups × SetupAction)}
    {last : Setups} (run : Run (setups env start) trace last) :
    (last.site = start ∧ ∀ call ∈ last.calls, call.rows = [] ∧
        ∀ admin, call.pc ≠ .answered (.seeded admin)) ∨
      ∃ call ∈ last.calls, ∃ draws, call.rows ≠ [] ∧ call.rows <+: demoRows draws ∧
        last.site = insertAll start call.rows ∧ ¬ HasDemo start ∧
        (∀ other ∈ last.calls, other.rows ≠ [] → other = call) ∧
        ((∃ admin, call.pc = .answered (.seeded admin)) ↔ call.rows = demoRows draws) ∧
        (call.pc.ended = true → ∀ more final, Path (setups env start) last more final →
          final.site = last.site) ∧
        (start.users = [] → ∀ (router : Env) (fields : Fields), router.demoAuth = true →
          fields.email ≠ "" ∧ fields.password ≠ "" →
          (login router last.site (.ok (some fields))).1.status =
            if 2 ≤ call.rows.length then 200 else 401) := by
  cases Setups.guarded_of_run run with
  | waiting site idle =>
      refine .inl ⟨site, fun call member => ⟨(idle call member).2, ?_⟩⟩
      rintro admin answered
      have waits := (idle call member).1
      rw [answered] at waits
      exact waits
  | seeding index k call draws seeds =>
      refine .inr ⟨call, List.mem_of_getElem? seeds.found, draws, ?_, ?_, seeds.site,
        seeds.unseeded, fun other => seeds.unique, seeds.seeded_iff, ?_, ?_⟩
      · have begun := seeds.begun
        rw [← seeds.wrote] at begun
        exact List.ne_nil_of_length_pos begun
      · rw [seeds.rows]
        exact List.take_prefix k _
      · exact fun ended more final path => seeds.abandoned ended path
      · intro nobody router fields demo typed
        rw [seeds.wrote]
        exact seeds.login nobody demo typed

/-! ## A request that is killed -/

/-- The tables after `ensureSchema`. -/
def emptyTables : Site := ⟨[], [], [], [], [], [], [], [], [], [], []⟩

/-- Two requests look the organization up before either inserts it. The first one is let through and
killed after its second row, the second one fails, and a third one finds the organization. -/
def halfSeeded : List SetupAction :=
  let next (index : Nat) : SetupAction := .statement index (10 + index) 5 none
  [.request none, .request none, next 0, next 1, next 0, next 1, next 0, next 1,
    .statement 0 20 6 none, .kill 0, .request none, next 2, next 2]

theorem seeded_once_halfSeeded :
    ∃ trace last, Run (setups ⟨"", "", fun _ => "duplicate key"⟩ emptyTables) trace last ∧
      (∃ call ∈ last.calls, call.rows.length = 2) ∧
      ((last.site = emptyTables ∧ ∀ call ∈ last.calls, call.rows = [] ∧
        ∀ admin, call.pc ≠ .answered (.seeded admin)) ∨
      ∃ call ∈ last.calls, ∃ draws, call.rows ≠ [] ∧ call.rows <+: demoRows draws ∧
        last.site = insertAll emptyTables call.rows ∧ ¬ HasDemo emptyTables ∧
        (∀ other ∈ last.calls, other.rows ≠ [] → other = call) ∧
        ((∃ admin, call.pc = .answered (.seeded admin)) ↔ call.rows = demoRows draws) ∧
        (call.pc.ended = true → ∀ more final,
          Path (setups ⟨"", "", fun _ => "duplicate key"⟩ emptyTables) last more final →
          final.site = last.site) ∧
        (emptyTables.users = [] → ∀ (router : Env) (fields : Fields), router.demoAuth = true →
          fields.email ≠ "" ∧ fields.password ≠ "" →
          (login router last.site (.ok (some fields))).1.status =
            if 2 ≤ call.rows.length then 200 else 401)) := by
  obtain ⟨trace, last, run, check⟩ :=
    exists_run_of_execute (setups ⟨"", "", fun _ => "duplicate key"⟩ emptyTables) halfSeeded
      ⟨emptyTables, []⟩ (fun _ last => ∃ call ∈ last.calls, call.rows.length = 2) ⟨rfl, rfl⟩
      (by decide)
  exact ⟨trace, last, run, check, seeded_once run⟩

end Dashboard

end JobScheduler
