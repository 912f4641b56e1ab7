import JobScheduler.Api.Server

/-!
# The service over time

Requests in any order, on tables that satisfy the schema to start with. The state keeps the
identifiers drawn so far, which `uuid.New` does not draw again, and the sessions that were opened.

The constraints of the schema hold in every state of every run. Every change of an organization's
rows is made by its registration, or by a request with a token that a registration or a login of
one of its users was answered with less than the lifetime of a token before. An organization that
was deleted stays deleted, and nobody logs in to it any more.
-/

set_option autoImplicit false

namespace JobScheduler

open Relational Transition

/-! ## The steps -/

/-- A session that a response has opened. -/
structure OpenSession where
  token : String
  user : User
  issuedAt : Time

/-- The tables, the identifiers drawn so far and the sessions opened so far. -/
structure ServiceState where
  site : Site
  drawn : List UUID
  sessions : List OpenSession

/-- The session that a response opens. -/
def ServerResponse.session? (now : Time) : ServerResponse → Option OpenSession
  | .auth (.session _ token user) => some ⟨token, user, now⟩
  | _ => none

/-- Every identifier in the tables is one of these. -/
structure Site.Within (ids : List UUID) (site : Site) : Prop where
  organizations : ∀ o ∈ site.organizations, o.id ∈ ids
  users : ∀ u ∈ site.users, u.id ∈ ids ∧ u.orgId ∈ ids
  projects : ∀ p ∈ site.projects, p.id ∈ ids
  queues : ∀ q ∈ site.queues, q.id ∈ ids
  jobs : ∀ j ∈ site.jobs, j.id ∈ ids

/-- The requests to a server, with identifiers that were not drawn before. -/
def Server.service (server : Server) : System ServiceState Call where
  initial s := s.site.Sound ∧ s.site.Within s.drawn ∧ s.sessions = []
  step s call :=
    if (server.drawn call).Nodup ∧ ∀ id ∈ server.drawn call, id ∉ s.drawn then
      let done := server.serve call s.site
      some ⟨done.2, server.drawn call ++ s.drawn,
        (done.1.session? call.env.instant).toList ++ s.sessions⟩
    else none

/-! ## Writes and identifiers -/

namespace Site.Within

variable {site : Site} {ids drawn : List UUID}

theorem mono (within : site.Within ids) (more : ids ⊆ drawn) : site.Within drawn where
  organizations o member := more (within.organizations o member)
  users u member := ⟨more (within.users u member).1, more (within.users u member).2⟩
  projects p member := more (within.projects p member)
  queues q member := more (within.queues q member)
  jobs j member := more (within.jobs j member)

/-- New identifiers are unused. -/
theorem unused (within : site.Within ids) (distinct : drawn.Nodup)
    (new : ∀ id ∈ drawn, id ∉ ids) : site.Unused drawn where
  distinct := distinct
  projects p member listed := new p.id listed (within.projects p member)
  queues q member listed := new q.id listed (within.queues q member)
  jobs j member listed := new j.id listed (within.jobs j member)

theorem deleteQueues (within : site.Within ids) (gone : List UUID) :
    (site.deleteQueues gone).Within ids where
  organizations := within.organizations
  users := within.users
  projects := within.projects
  queues := forall_mem_filter within.queues
  jobs := forall_mem_filter within.jobs

theorem deleteProjects (within : site.Within ids) (gone : List UUID) :
    (site.deleteProjects gone).Within ids :=
  { within.deleteQueues (site.queuesOf gone) with
    projects := forall_mem_filter within.projects }

theorem createJob (within : site.Within ids) {now : Timestamptz} {id : UUID}
    {input : CreateJobInput} {done : Site × CreateJobResult} (listed : id ∈ ids)
    (creates : site.createJob now id input = .ok done) : done.1.Within ids := by
  rcases createJob_cases creates with same | ⟨same, _⟩
  · rw [same]
    exact within
  · rw [same]
    exact { within with jobs := forall_mem_append_singleton within.jobs listed }

theorem createJobBatch {now : Timestamptz} : ∀ {inputs : List (UUID × CreateJobInput)}
    {site : Site}, site.Within ids → inputs.map (·.1) ⊆ ids → ∀ {site' : Site} {rows : List Job},
      site.createJobBatch now inputs = .ok (site', rows) → site'.Within ids
  | [], site, within, _, site', rows, creates => by
      cases creates
      exact within
  | (id, input) :: rest, site, within, listed, site', rows, creates => by
      rw [List.map_cons, List.cons_subset] at listed
      rw [createJobBatch_cons] at creates
      split at creates
      · cases creates
      next first made =>
        split at creates
        · cases creates
        next last later =>
          cases creates
          exact createJobBatch (within.createJob listed.1 made) listed.2 later

/-- A write brings in the identifiers it draws, and no others. -/
theorem write (within : site.Within ids) {env : ApiEnv} {orgId : UUID} {site' : Site}
    (write : site.Write env orgId drawn site') : site'.Within (drawn ++ ids) := by
  have grown : site.Within (drawn ++ ids) := within.mono (List.subset_append_right _ _)
  cases write with
  | updateOrg done =>
      obtain ⟨db, updates, rfl⟩ := succeeded_of_map done
      obtain ⟨_, _, rfl⟩ := Database.updateOrg_spec updates
      exact { grown with
        organizations := forall_mem_update grown.organizations fun o member _ =>
          grown.organizations o member }
  | deleteOrg done =>
      obtain ⟨db, deletes, rfl⟩ := succeeded_of_map done
      obtain ⟨_, rfl⟩ := Database.deleteOrg_spec deletes
      exact { grown.deleteProjects _ with
        organizations := forall_mem_filter grown.organizations
        users := forall_mem_filter grown.users }
  | createProject draws done =>
      obtain ⟨db, creates, rfl⟩ := succeeded_of_map done
      obtain ⟨_, _, rfl⟩ := Database.createProject_spec creates
      subst draws
      exact { grown with
        projects := forall_mem_append_singleton grown.projects List.mem_cons_self }
  | updateProject done =>
      obtain ⟨db, updates, rfl⟩ := succeeded_of_map done
      obtain ⟨_, _, rfl⟩ := Database.updateProject_spec updates
      exact { grown with
        projects := forall_mem_update grown.projects fun p member _ => grown.projects p member }
  | deleteProject done =>
      obtain ⟨_, _, rfl⟩ := succeeded_of_map done
      exact grown.deleteProjects _
  | createQueue draws owner done =>
      obtain ⟨db, creates, rfl⟩ := succeeded_of_map done
      obtain ⟨_, _, _, _, rfl⟩ := Database.createQueue_spec creates
      subst draws
      exact { grown with
        queues := forall_mem_append_singleton grown.queues List.mem_cons_self }
  | updateQueue done =>
      obtain ⟨db, updates, rfl⟩ := succeeded_of_map done
      obtain ⟨_, _, _, _, rfl⟩ := Database.updateQueue_spec updates
      exact { grown with
        queues := forall_mem_update grown.queues fun q member _ => grown.queues q member }
  | deleteQueue done =>
      obtain ⟨_, _, rfl⟩ := succeeded_of_map done
      exact grown.deleteQueues _
  | setPaused done =>
      obtain ⟨db, sets, rfl⟩ := succeeded_of_map done
      obtain ⟨_, rfl⟩ := Database.setPaused_spec sets
      exact { grown with
        queues := forall_mem_update grown.queues fun q member _ => grown.queues q member }
  | createJob draws found builds done =>
      subst draws
      exact grown.createJob List.mem_cons_self done
  | createJobBatch draws sized found builds done =>
      subst draws
      refine createJobBatch grown ?_ done
      rw [(buildInputs_columns builds).1, List.cons_append]
      exact fun _ listed => List.mem_cons_of_mem _ (List.mem_append_left _ listed)
  | retryDLQJob done =>
      obtain ⟨⟨db, job⟩, retries, same⟩ := succeeded_of_map done
      obtain ⟨_, rfl⟩ := site.core.retryDLQJob_spec retries
      cases same
      exact { grown with
        jobs := forall_mem_update grown.jobs fun j member _ => grown.jobs j member }

end Site.Within

/-! ## Writes and organizations -/

namespace Site.Write

variable {env : ApiEnv} {orgId : UUID} {site site' : Site} {drawn : List UUID}

/-- A write that succeeds does something that it mirrors. -/
theorem exists_of_mirrors {α β : Type} {rel : α → β → Prop} {result : Except StoreError α}
    {spec : Except StoreError β} (mirrors : Mirrors rel result spec) {value : α}
    (done : result = .ok value) : ∃ value', rel value value' := by
  cases mirrors with
  | error e => cases done
  | ok related =>
      cases done
      exact ⟨_, related⟩

/-- A write changes rows of the organization it is made for. -/
theorem spares (write : site.Write env orgId drawn site') (sound : site.Sound)
    (unused : site.Unused drawn) : Site.Spares orgId site site' := by
  have valid := sound.toValid
  have follow := sound.lettersFollow
  cases write with
  | updateOrg done => exact updateOrg_spares done
  | deleteOrg done =>
      obtain ⟨_, confined⟩ := exists_of_mirrors (deleteOrg_mirrors valid) done
      exact confined.spares follow
  | createProject draws done =>
      subst draws
      obtain ⟨_, confined⟩ :=
        exists_of_mirrors (createProject_mirrors valid _ _ _ _ unused.project_ne) done
      exact confined.spares trivial
  | updateProject done =>
      obtain ⟨_, confined⟩ := exists_of_mirrors (updateProject_mirrors _ _ _ _ _) done
      exact confined.spares trivial
  | deleteProject done =>
      obtain ⟨_, confined⟩ := exists_of_mirrors (deleteProject_mirrors valid _) done
      exact confined.spares follow
  | createQueue draws owner done =>
      subst draws
      obtain ⟨_, confined⟩ :=
        exists_of_mirrors (createQueue_mirrors valid env.now unused.queue_ne owner) done
      exact confined.spares trivial
  | updateQueue done =>
      obtain ⟨_, confined⟩ := exists_of_mirrors (updateQueue_mirrors valid env.now _) done
      exact confined.spares trivial
  | deleteQueue done =>
      obtain ⟨_, confined⟩ := exists_of_mirrors (deleteQueue_mirrors valid _) done
      exact confined.spares follow
  | setPaused done =>
      obtain ⟨_, confined⟩ := exists_of_mirrors (setPaused_mirrors valid env.now _ _) done
      exact confined.spares trivial
  | createJob draws found builds done =>
      subst draws
      obtain ⟨member, _, owner⟩ := owner_of_getQueue found
      obtain ⟨_, answers⟩ := exists_of_mirrors (createJob_mirrors valid env.now unused.job_ne
        ⟨_, member, (buildJobInput_columns builds).1.symm, owner⟩) done
      exact answers.1.spares trivial
  | createJobBatch draws sized found builds done =>
      subst draws
      obtain ⟨member, _, owner⟩ := owner_of_getQueue found
      obtain ⟨ids, queues, _⟩ := buildInputs_columns builds
      have rows := unused.tail
      rw [← ids] at rows
      obtain ⟨_, answers⟩ := exists_of_mirrors (createJobBatch_mirrors env.now _ valid
        rows.distinct rows.jobs fun entry listed =>
          ⟨_, member, (queues entry listed).symm, owner⟩) done
      exact answers.1.spares trivial
  | retryDLQJob done =>
      obtain ⟨_, answers⟩ := exists_of_mirrors (retryDLQJob_mirrors valid env.now _) done
      exact answers.1.spares follow

/-- A write is made for an organization that exists. -/
theorem organization (write : site.Write env orgId drawn site') (sound : site.Sound) :
    ∃ o ∈ site.organizations, o.id = orgId := by
  have ofProject : (∃ p ∈ site.projects, p.orgId = orgId) →
      ∃ o ∈ site.organizations, o.id = orgId := by
    rintro ⟨p, member, rfl⟩
    exact sound.projectOrganizations p member
  have ofQueue : ∀ {q : Queue}, site.QueueOf orgId q → ∃ o ∈ site.organizations, o.id = orgId := by
    rintro q ⟨p, member, _, owner⟩
    exact ofProject ⟨p, member, owner⟩
  cases write with
  | updateOrg done =>
      obtain ⟨db, updates, _⟩ := succeeded_of_map done
      exact (Database.updateOrg_spec updates).1
  | deleteOrg done =>
      obtain ⟨db, deletes, _⟩ := succeeded_of_map done
      exact (Database.deleteOrg_spec deletes).1
  | createProject draws done =>
      obtain ⟨db, creates, _⟩ := succeeded_of_map done
      exact (Database.createProject_spec creates).1
  | updateProject done =>
      obtain ⟨db, updates, _⟩ := succeeded_of_map done
      obtain ⟨p, member, _, owner⟩ := (Database.updateProject_spec updates).1
      exact ofProject ⟨p, member, owner⟩
  | deleteProject done =>
      obtain ⟨db, deletes, _⟩ := succeeded_of_map done
      obtain ⟨p, member, _, owner⟩ := (Database.deleteProject_spec deletes).1
      exact ofProject ⟨p, member, owner⟩
  | createQueue draws owner done =>
      obtain ⟨p, member, _, owner⟩ := owner
      exact ofProject ⟨p, member, owner⟩
  | updateQueue done =>
      obtain ⟨db, updates, _⟩ := succeeded_of_map done
      obtain ⟨_, _, _, owner⟩ := (Database.updateQueue_spec updates).2.1
      exact ofQueue owner
  | deleteQueue done =>
      obtain ⟨db, deletes, _⟩ := succeeded_of_map done
      obtain ⟨_, _, _, owner⟩ := (Database.deleteQueue_spec deletes).1
      exact ofQueue owner
  | setPaused done =>
      obtain ⟨db, sets, _⟩ := succeeded_of_map done
      obtain ⟨_, _, _, owner⟩ := (Database.setPaused_spec sets).1
      exact ofQueue owner
  | createJob draws found builds done => exact ofQueue (owner_of_getQueue found).2.2
  | createJobBatch draws sized found builds done => exact ofQueue (owner_of_getQueue found).2.2
  | retryDLQJob done =>
      obtain ⟨⟨db, job⟩, retries, _⟩ := succeeded_of_map done
      unfold Database.retryDLQJob at retries
      split at retries
      · cases retries
      next old found =>
        have retriable := List.find?_some found
        rw [decide_eq_true_eq] at retriable
        obtain ⟨_, _, q, _, _, owner⟩ := retriable
        exact ofQueue owner

end Site.Write

/-! ## What one call does -/

namespace Server

variable {server : Server} {call : Call} {site : Site}

/-- The account that a call has registered. -/
structure Registers (server : Server) (call : Call) (site site' : Site) : Prop where
  route : server.route? call = some .register
  account : ∃ req hash token, (server.serve call site).1 = .auth (.session 201 token
      (AuthHandler.newUser (registerDraw call) req hash)) ∧
    (¬ ∃ o ∈ site.organizations, o.slug = req.orgSlug) ∧
    site' = AuthHandler.withAccount (registerDraw call) req hash site

/-- The write that a call has made with a token. -/
structure Authorizes (server : Server) (call : Call) (site : Site) (token : String)
    (claims : Claims) (site' : Site) : Prop where
  header : call.request.authorization = "Bearer " ++ token
  valid : server.jwt.validateToken call.env.instant token = .ok claims
  method : call.request.method ≠ .get
  succeeds : (server.serve call site).1.status < 300
  write : site.Write call.env claims.orgId (server.drawn call) site'

/-- A call leaves the tables as they are, registers an account, or makes a write with a token. -/
theorem serve_cases (fresh : server.route? call = some .register →
      AuthHandler.Fresh (registerDraw call) site) :
    (server.serve call site).2 = site ∨
      Registers server call site (server.serve call site).2 ∨
      ∃ token claims, Authorizes server call site token claims (server.serve call site).2 := by
  by_cases same : (server.serve call site).2 = site
  · exact .inl same
  right
  cases found : server.route? call with
  | none =>
      refine absurd ?_ same
      unfold serve
      rw [found]
      dsimp only
      split <;> rfl
  | some route =>
      cases route with
      | healthz => exact absurd (by rw [serve, found]) same
      | metrics => exact absurd (by rw [serve, found]) same
      | login => exact absurd (by rw [serve, found]) same
      | register =>
          have served : server.serve call site =
              (.auth ((server.authHandler call.env.instant).register (registerDraw call)
                call.request.body.register site).1,
              ((server.authHandler call.env.instant).register (registerDraw call)
                call.request.body.register site).2) := by rw [serve, found]
          rcases AuthHandler.register_cases (h := server.authHandler call.env.instant)
              (fresh found) call.request.body.register with
            ⟨req, hash, token, accepts, done⟩ | ⟨_, response, done⟩
          · rw [done] at served
            exact .inl ⟨found, req, hash, token, by rw [served], accepts.2.2.2, by rw [served]⟩
          · rw [done] at served
            exact absurd (by rw [served]) same
      | authenticated request =>
          cases granted : server.auth call.env.instant call.request.authorization with
          | error message => exact absurd (by rw [serve, found]; simp only [granted]) same
          | ok claims =>
              have served : server.serve call site =
                  (.api (request.handle call.env claims.orgId site).1,
                    (request.handle call.env claims.orgId site).2) := by
                rw [serve, found]
                simp only [granted]
              obtain ⟨token, header, valid⟩ := auth_eq_ok granted
              rw [served] at same
              obtain ⟨writes, succeeds, write⟩ := handle_changes same
              refine .inr ⟨token, claims, header, valid, ?_, ?_, ?_⟩
              · intro reads
                rw [(reads_iff_get found).mpr reads] at writes
                cases writes
              · rw [served]
                exact succeeds
              · rw [served, drawn, found]
                exact write

/-! ## Invariants of a run -/

/-- The constraints of the schema, the identifiers that are there, and the tokens that were
signed. -/
structure Intact (server : Server) (s : ServiceState) : Prop where
  sound : s.site.Sound
  within : s.site.Within s.drawn
  signed : ∀ session ∈ s.sessions,
    server.jwt.generateToken session.issuedAt session.user.claims = some session.token

variable {s s' : ServiceState}

theorem service_step (taken : server.service.step s call = some s') :
    (server.drawn call).Nodup ∧ (∀ id ∈ server.drawn call, id ∉ s.drawn) ∧
      s' = ⟨(server.serve call s.site).2, server.drawn call ++ s.drawn,
        ((server.serve call s.site).1.session? call.env.instant).toList ++ s.sessions⟩ := by
  simp only [service] at taken
  split at taken
  next fresh =>
    cases taken
    exact ⟨fresh.1, fresh.2, rfl⟩
  · cases taken

theorem Intact.fresh (intact : Intact server s) (new : ∀ id ∈ server.drawn call, id ∉ s.drawn)
    (found : server.route? call = some .register) :
    AuthHandler.Fresh (registerDraw call) s.site := by
  rw [drawn, found] at new
  have org : call.fresh 0 ∉ s.drawn := new _ List.mem_cons_self
  have user : call.fresh 1 ∉ s.drawn := new _ (List.mem_cons_of_mem _ List.mem_cons_self)
  have differs : ∀ {id draw : UUID}, id ∈ s.drawn → draw ∉ s.drawn → id ≠ draw := by
    rintro id draw listed unlisted rfl
    exact unlisted listed
  exact ⟨fun u member => ⟨differs (intact.within.users u member).1 user,
      differs (intact.within.users u member).2 org⟩,
    fun o member => differs (intact.within.organizations o member) org⟩

/-- The session of a response has the token that was signed for its user. -/
theorem session_signed {session : OpenSession}
    (opened : (server.serve call site).1.session? call.env.instant = some session) :
    session.issuedAt = call.env.instant ∧ ∃ status,
      (server.serve call site).1 = .auth (.session status session.token session.user) ∧
      server.jwt.generateToken session.issuedAt session.user.claims = some session.token := by
  unfold ServerResponse.session? at opened
  split at opened
  next status token user response =>
    cases opened
    refine ⟨rfl, status, response, ?_⟩
    unfold serve at response
    split at response
    · split at response <;> cases response
    · cases response
    · cases response
    · exact (register_session (ServerResponse.auth.inj response)).2.2
    · exact (login_session (ServerResponse.auth.inj response)).2.2
    · split at response <;> cases response
  · cases opened

theorem Intact.step (intact : Intact server s) (taken : server.service.step s call = some s') :
    Intact server s' := by
  obtain ⟨distinct, new, rfl⟩ := service_step taken
  have grown : s.site.Within (server.drawn call ++ s.drawn) :=
    intact.within.mono (List.subset_append_right _ _)
  have signed : ∀ session ∈ ((server.serve call s.site).1.session? call.env.instant).toList ++
      s.sessions,
      server.jwt.generateToken session.issuedAt session.user.claims = some session.token := by
    intro session member
    rcases List.mem_append.mp member with opened | earlier
    · obtain ⟨_, _, _, signed⟩ := session_signed (Option.mem_toList.mp opened)
      exact signed
    · exact intact.signed session earlier
  rcases serve_cases (intact.fresh new) with same | ⟨found, req, hash, token, _, free, done⟩ |
    ⟨token, claims, authorizes⟩
  · exact ⟨by rw [same]; exact intact.sound, by rw [same]; exact grown, signed⟩
  · obtain ⟨users, organizations⟩ := intact.fresh new found
    have listed : call.fresh 0 ∈ server.drawn call ++ s.drawn ∧
        call.fresh 1 ∈ server.drawn call ++ s.drawn := by
      rw [drawn, found]
      simp
    refine ⟨?_, ?_, signed⟩
    · rw [done]
      refine (intact.sound.insertOrganization organizations free).insertUser
        (fun u member => (users u member).1) ⟨_, List.mem_append_right _ List.mem_cons_self, rfl⟩ ?_
      rintro ⟨u, member, same, _⟩
      exact (users u member).2 same
    · rw [done]
      exact { grown with
        organizations := forall_mem_append_singleton grown.organizations listed.1
        users := forall_mem_append_singleton grown.users ⟨listed.2, listed.1⟩ }
  · have unused := intact.within.unused distinct new
    exact ⟨intact.sound.write unused authorizes.write, intact.within.write authorizes.write,
      signed⟩

theorem intact_of_run {trace : List (ServiceState × Call)} (run : Run server.service trace s) :
    Intact server s := by
  have always : Meets (fun _ _ => True) trace := fun _ _ => trivial
  refine run.invariant always ?_ fun _ _ _ taken _ intact => intact.step taken
  rintro t ⟨sound, within, none⟩
  exact ⟨sound, within, by rw [none]; exact List.forall_mem_nil _⟩

end Server

/-! ## A small service

An organization registers with an empty service; then its admin creates a project, or deletes the
organization and goes on to use the token. -/

/-- The service after a call. -/
def Server.after (server : Server) (s : ServiceState) (call : Call) : ServiceState :=
  ⟨(server.serve call s.site).2, server.drawn call ++ s.drawn,
    ((server.serve call s.site).1.session? call.env.instant).toList ++ s.sessions⟩

theorem Server.after_site (server : Server) (s : ServiceState) (call : Call) :
    (server.after s call).site = (server.serve call s.site).2 := rfl

theorem Server.service_step_eq {server : Server} {s : ServiceState} {call : Call}
    (distinct : (server.drawn call).Nodup) (new : ∀ id ∈ server.drawn call, id ∉ s.drawn) :
    server.service.step s call = some (server.after s call) :=
  if_pos ⟨distinct, new⟩

/-- Empty tables. -/
def ServiceState.start : ServiceState := ⟨Registry.start.site, [], []⟩

namespace ServerScenario

/-- An organization registers. -/
def registration : Call :=
  let request := plainRequest .post ["auth", "register"] ""
  plainCall { request with body := { request.body with
    register := .ok (founder 1 "acme" "password-1").1 } } 1

def registered : ServiceState := plainServer.after .start registration

/-- The token of its admin. -/
def adminToken : String :=
  plainSign "change-me-in-production"
    (plainServer.jwt.jwtClaims 0 ⟨2, 1, "ada@example.com", "admin"⟩)

def submission (first : UUID) : Call :=
  let request := plainRequest .post ["projects"] ("Bearer " ++ adminToken)
  plainCall { request with body := { request.body with
    createProject := .ok ⟨"Project", "project", none⟩ } } first

def deletion : Call :=
  plainCall (plainRequest .delete ["orgs", Nat.repr 1] ("Bearer " ++ adminToken)) 20

theorem plain_hash {password : String} (salt : Nat) (short : password.utf8ByteSize ≤ 72) :
    plainBcrypt.hashPassword salt password = some ("$2a$10$" ++ password) := if_pos short

theorem route_deletion :
    plainServer.route? deletion = some (.authenticated (.deleteOrg (some 1))) := by
  have parsed : (plainServer.jwt.package.uuidParse (Nat.repr 1)).toOption = some 1 := by
    rw [show plainServer.jwt.package.uuidParse (Nat.repr 1) = .ok 1 from
      plainPackage.parsesUuid 1]
    rfl
  have routes : plainServer.route? deletion = some (.authenticated (.deleteOrg
      (plainServer.jwt.package.uuidParse (Nat.repr 1)).toOption)) := rfl
  rw [routes, parsed]

theorem route_submission (first : UUID) :
    plainServer.route? (submission first) = some (.authenticated (.createProject
      (.ok ⟨"Project", "project", none⟩) first)) := rfl

/-- Its admin. -/
def admin : User :=
  AuthHandler.newUser ⟨0, 1, 2, 0⟩ (founder 1 "acme" "password-1").1 ("$2a$10$" ++ "password-1")

/-- The tables with the organization. -/
def acme : Site :=
  AuthHandler.withAccount ⟨0, 1, 2, 0⟩ (founder 1 "acme" "password-1").1 ("$2a$10$" ++ "password-1")
    Registry.start.site

theorem serve_registration :
    plainServer.serve registration Registry.start.site =
      (.auth (.session 201 adminToken admin), acme) := by
  have slug : validSlug "acme" = true := by
    rw [validSlug_eq]
    decide
  have valid : validateRegister (founder 1 "acme" "password-1").1 = [] := by
    simp only [validateRegister, founder, slug]
    decide
  have accepts : (plainServer.authHandler 0).Accepts ⟨0, 1, 2, 0⟩
      (.ok (founder 1 "acme" "password-1").1) Registry.start.site (founder 1 "acme" "password-1").1
      ("$2a$10$" ++ "password-1") :=
    ⟨rfl, valid, plain_hash 0 (by decide), by decide⟩
  have served : plainServer.serve registration Registry.start.site =
      (.auth ((plainServer.authHandler 0).register ⟨0, 1, 2, 0⟩
        (.ok (founder 1 "acme" "password-1").1) Registry.start.site).1,
      ((plainServer.authHandler 0).register ⟨0, 1, 2, 0⟩
        (.ok (founder 1 "acme" "password-1").1) Registry.start.site).2) := rfl
  rw [served]
  have fresh : AuthHandler.Fresh ⟨0, 1, 2, 0⟩ Registry.start.site := by decide
  rcases AuthHandler.register_cases (h := plainServer.authHandler 0) fresh
      (.ok (founder 1 "acme" "password-1").1) with
    ⟨req, hash, token, accepts', done⟩ | ⟨rejects, _⟩
  · cases accepts.1.symm.trans accepts'.1
    cases accepts.2.2.1.symm.trans accepts'.2.2.1
    have signed := (Server.register_session (congrArg Prod.fst done)).2.2
    have token' : token = adminToken := (Option.some.inj signed).symm
    rw [done, token']
    rfl
  · exact absurd accepts (rejects _ _)

theorem admin_valid {header : String} (bears : header = "Bearer " ++ adminToken) :
    plainServer.auth 0 header = .ok admin.claims := by
  have signed : plainServer.jwt.generateToken 0 admin.claims = some adminToken := rfl
  have valid : plainServer.jwt.validateToken 0 adminToken = .ok admin.claims :=
    (JWTService.validateToken_eq_ok_iff signed).mpr ⟨by decide, rfl⟩
  unfold Server.auth
  rw [cutPrefix_eq_some_iff.mpr bears]
  simp only [valid]
  rw [if_neg]
  rw [bears, ← String.toList_inj, String.toList_append]
  simp

theorem serve_submission (first : UUID) :
    plainServer.serve (submission first) acme =
      (.api ⟨201, .project ⟨first, 1, "Project", "project", none, 0, 0⟩⟩,
        { acme with projects := [⟨first, 1, "Project", "project", none, 0, 0⟩] }) := by
  have slug : validSlug "project" = true := by
    rw [validSlug_eq]
    decide
  have valid : validateCreateProject ⟨"Project", "project", none⟩ = [] := by
    simp only [validateCreateProject, slug]
    decide
  unfold Server.serve
  rw [route_submission]
  dsimp only
  rw [show plainServer.auth (submission first).env.instant
    (submission first).request.authorization = .ok admin.claims from admin_valid rfl]
  dsimp only
  unfold ApiRequest.handle ProjectHandler.create withBody
  dsimp only
  rw [valid]
  rfl

theorem serve_deletion_status : (plainServer.serve deletion acme).1.status = 204 := by
  unfold Server.serve
  rw [route_deletion]
  dsimp only
  rw [show plainServer.auth deletion.env.instant deletion.request.authorization =
    .ok admin.claims from admin_valid rfl]
  rfl

/-! The runs: the registration, then a project, or the deletion and an old token. -/

theorem start_initial : plainServer.service.initial .start := by
  refine ⟨?_, ?_, rfl⟩
  · constructor <;> simp [ServiceState.start, Registry.start, Site.LettersFollow, References]
    constructor <;> simp
  · constructor <;> simp [ServiceState.start, Registry.start]

theorem run_registered :
    Run plainServer.service [(.start, registration)] registered :=
  (Run.start start_initial).next _
    (Server.service_step_eq (by decide) fun _ _ => List.not_mem_nil)

theorem registered_site : registered.site = acme := congrArg Prod.snd serve_registration

def submitted : ServiceState := plainServer.after registered (submission 10)

theorem submitted_site : submitted.site =
    { acme with projects := [⟨10, 1, "Project", "project", none, 0, 0⟩] } := by
  rw [submitted, Server.after_site, registered_site, serve_submission]

theorem run_submitted :
    Run plainServer.service [(registered, submission 10), (.start, registration)] submitted :=
  run_registered.next _ (Server.service_step_eq (by decide) (by decide))

def deleted : ServiceState := plainServer.after registered deletion

theorem run_deleted :
    Run plainServer.service [(deleted, submission 30), (registered, deletion),
      (.start, registration)] (plainServer.after deleted (submission 30)) := by
  have none : plainServer.drawn deletion = [] := by
    rw [Server.drawn, route_deletion]
    rfl
  have first : Run plainServer.service [(registered, deletion), (.start, registration)] deleted :=
    run_registered.next _ (Server.service_step_eq (by rw [none]; exact List.nodup_nil)
      (by rw [none]; exact List.forall_mem_nil _))
  refine first.next _ (Server.service_step_eq (by decide) ?_)
  have before : deleted.drawn = [1, 2] := by
    rw [deleted, Server.after, none]
    rfl
  rw [before]
  decide

end ServerScenario

/-- **The schema holds throughout.** -/
theorem schema_kept {server : Server} {trace : List (ServiceState × Call)} {last : ServiceState}
    (run : Run server.service trace last) : Throughout (fun s => s.site.Sound) trace last := by
  have always : Meets (fun _ _ => True) trace := fun _ _ => trivial
  have intact : Throughout (Server.Intact server) trace last := by
    refine run.throughout always ?_ fun _ _ _ taken _ intact => intact.step taken
    rintro t ⟨sound, within, none⟩
    exact ⟨sound, within, by rw [none]; exact List.forall_mem_nil _⟩
  exact ⟨fun entry member => (intact.1 entry member).sound, intact.2.sound⟩

open ServerScenario in
theorem schema_kept_submitted :
    submitted.site.projects ≠ [] ∧
      Throughout (fun s => s.site.Sound)
        [(registered, submission 10), (.start, registration)] submitted := by
  refine ⟨?_, schema_kept run_submitted⟩
  rw [submitted_site]
  exact List.cons_ne_nil _ _

/-! ## Who changes an organization -/

namespace Server

variable (server : Server)

/-- The call was answered with this session. -/
def Opens (s : ServiceState) (call : Call) (session : OpenSession) : Prop :=
  (server.serve call s.site).1.session? call.env.instant = some session

/-- A registration, or a login with the email and the password of a user of the table. -/
def Proves (s : ServiceState) (call : Call) (user : User) : Prop :=
  server.route? call = some .register ∨
    user ∈ s.site.users ∧ ∃ req, call.request.body.login = .ok req ∧ user.email = req.email ∧
      server.bcrypt.checkPassword user.passwordHash req.password = true

/-- No token is accepted that no session was opened with. -/
def Unforged (s : ServiceState) (call : Call) : Prop :=
  ∀ token claims, call.request.authorization = "Bearer " ++ token →
    server.jwt.validateToken call.env.instant token = .ok claims →
    ∃ session ∈ s.sessions, session.token = token

/-- The rows of the organization and its users are the same after a step. -/
def Keeps (o : UUID) (s s' : ServiceState) : Prop :=
  s'.site.tenant o = s.site.tenant o ∧ s'.site.usersOf o = s.site.usersOf o

variable {server} {s s' : ServiceState} {call : Call}

/-- A session was opened by a step of the run. -/
theorem exists_opens {trace : List (ServiceState × Call)} {session : OpenSession}
    (run : Run server.service trace s) (member : session ∈ s.sessions) :
    ∃ entry ∈ trace, server.Opens entry.1 entry.2 session := by
  induction run with
  | start initial =>
      rw [initial.2.2] at member
      cases member
  | next call previous taken ih =>
      obtain ⟨_, _, rfl⟩ := service_step taken
      rcases List.mem_append.mp member with opened | earlier
      · exact ⟨_, List.mem_cons_self, Option.mem_toList.mp opened⟩
      · obtain ⟨entry, listed, opens⟩ := ih earlier
        exact ⟨entry, List.mem_cons_of_mem _ listed, opens⟩

/-- A session is opened for a new user, or for one of the table. -/
theorem Opens.user {session : OpenSession} (opens : server.Opens s call session) :
    (server.route? call = some .register ∧ session.user.orgId = call.fresh 0) ∨
      session.user ∈ s.site.users := by
  obtain ⟨_, status, response, _⟩ := session_signed opens
  unfold serve at response
  split at response
  · split at response <;> cases response
  · cases response
  · cases response
  next found =>
    exact .inl ⟨found, (register_session (ServerResponse.auth.inj response)).2.1⟩
  · exact .inr (login_session (ServerResponse.auth.inj response)).2.1
  · split at response <;> cases response

/-- With real authentication a session is opened for who proves to be its user. -/
theorem Opens.proves (real : server.demoAuth = false) {session : OpenSession}
    (opens : server.Opens s call session) : server.Proves s call session.user := by
  obtain ⟨_, status, response, _⟩ := session_signed opens
  unfold serve at response
  split at response
  · split at response <;> cases response
  · cases response
  · cases response
  next found => exact .inl found
  · right
    have answered := ServerResponse.auth.inj response
    cases body : call.request.body.login with
    | error message =>
        rw [body] at answered
        cases answered
    | ok req =>
        rw [body] at answered
        obtain ⟨member, email, verifies, _⟩ := AuthHandler.login_authentic real answered
        exact ⟨member, req, rfl, email, verifies⟩
  · split at response <;> cases response

end Server

/-- **Changes are authorized.** When a step of a run with real authentication changes the rows or
the users of an organization, the step is its registration; or it comes with the token of a
session that an earlier step has opened for a user of the organization, who registered or proved
his password, and less than the lifetime of tokens has passed since. -/
theorem changes_authorized {server : Server} (real : server.demoAuth = false)
    {earlier : List (ServiceState × Call)} {s s' : ServiceState} {call : Call}
    (run : Run server.service ((s, call) :: earlier) s') (unforged : server.Unforged s call)
    {o : UUID} (changes : ¬ Server.Keeps o s s') :
    (Server.Registers server call s.site s'.site ∧ o = call.fresh 0) ∨
      ∃ session claims, Server.Authorizes server call s.site session.token claims s'.site ∧
        claims = session.user.claims ∧ session.user.orgId = o ∧
        call.env.instant < session.issuedAt + server.jwt.ttl ∧
        ∃ entry ∈ earlier, server.Opens entry.1 entry.2 session ∧
          session.issuedAt = entry.2.env.instant ∧
          server.Proves entry.1 entry.2 session.user := by
  cases run with
  | next _ previous taken =>
      have intact := Server.intact_of_run previous
      obtain ⟨distinct, new, rfl⟩ := Server.service_step taken
      rcases Server.serve_cases (intact.fresh new) with same | registers |
        ⟨token, claims, authorizes⟩
      · refine absurd ?_ changes
        unfold Server.Keeps
        rw [same]
        exact ⟨rfl, rfl⟩
      · refine .inl ⟨registers, ?_⟩
        by_contra other
        obtain ⟨req, hash, token, _, free, done⟩ := registers.account
        refine changes ⟨?_, ?_⟩
        · dsimp only
          rw [done]
          refine Tenant.ext ?_ rfl rfl rfl rfl rfl rfl
          ext org
          simp only [Site.tenant, AuthHandler.withAccount, Set.mem_ofPred_eq, List.mem_append,
            List.mem_singleton]
          refine ⟨?_, fun both => ⟨.inl both.1, both.2⟩⟩
          rintro ⟨old | rfl, here⟩
          · exact ⟨old, here⟩
          · exact absurd here.symm other
        · dsimp only
          rw [done]
          ext u
          simp only [Site.usersOf, AuthHandler.withAccount, Set.mem_ofPred_eq, List.mem_append,
            List.mem_singleton]
          refine ⟨?_, fun both => ⟨.inl both.1, both.2⟩⟩
          rintro ⟨old | rfl, here⟩
          · exact ⟨old, here⟩
          · exact absurd here.symm other
      · obtain ⟨session, member, rfl⟩ := unforged token claims authorizes.header authorizes.valid
        obtain ⟨unexpired, rfl⟩ :=
          (JWTService.validateToken_eq_ok_iff (intact.signed session member)).mp authorizes.valid
        have owner : session.user.orgId = o := by
          by_contra other
          exact changes (authorizes.write.spares intact.sound
            (intact.within.unused distinct new) o fun same => other same.symm)
        obtain ⟨entry, listed, opens⟩ := Server.exists_opens previous member
        refine .inr ⟨session, _, authorizes, rfl, owner, ?_, entry, listed, opens,
          (Server.session_signed opens).1, opens.proves real⟩
        exact lt_of_lt_of_le unexpired (server.jwt.expiry_bounds session.issuedAt).1

open ServerScenario in
theorem changes_authorized_submission :
    ¬ Server.Keeps 1 registered submitted ∧
      ∃ session claims, Server.Authorizes plainServer (submission 10) registered.site
          (OpenSession.token session) claims submitted.site ∧
        claims = session.user.claims ∧ session.user.orgId = 1 ∧
        (submission 10).env.instant < session.issuedAt + plainServer.jwt.ttl ∧
        ∃ entry ∈ [(ServiceState.start, registration)],
          Server.Opens plainServer entry.1 entry.2 session ∧
          session.issuedAt = entry.2.env.instant ∧
          Server.Proves plainServer entry.1 entry.2 session.user := by
  have changes : ¬ Server.Keeps 1 registered submitted := by
    rintro ⟨same, _⟩
    have listed : (⟨10, 1, "Project", "project", none, 0, 0⟩ : Project) ∈
        (submitted.site.tenant 1).projects := by
      rw [submitted_site]
      exact ⟨List.mem_cons_self, rfl⟩
    rw [same, registered_site] at listed
    cases listed.1
  have opened : registered.sessions = [⟨adminToken, admin, 0⟩] := by
    rw [registered, Server.after, show ServiceState.start.site = Registry.start.site from rfl,
      serve_registration]
    rfl
  have unforged : plainServer.Unforged registered (submission 10) := by
    intro token claims header _
    rw [opened]
    refine ⟨_, List.mem_cons_self, ?_⟩
    have cut : cutPrefix "Bearer " ("Bearer " ++ adminToken) = some token :=
      cutPrefix_eq_some_iff.mpr header
    rw [cutPrefix_eq_some_iff.mpr rfl] at cut
    exact Option.some.inj cut
  rcases changes_authorized rfl run_submitted unforged changes with ⟨registers, _⟩ | authorized
  · cases (route_submission 10).symm.trans registers.route
  · exact ⟨changes, authorized⟩

/-! ## Deleted organizations -/

/-- No write brings in an organization. -/
theorem Site.Write.organizations {env : ApiEnv} {orgId : UUID} {site site' : Site}
    {drawn : List UUID} (write : site.Write env orgId drawn site') :
    ∀ org ∈ site'.organizations, ∃ old ∈ site.organizations, old.id = org.id := by
  have same : ∀ org ∈ site.organizations, ∃ old ∈ site.organizations, old.id = org.id :=
    fun org member => ⟨org, member, rfl⟩
  have created : ∀ {now : Timestamptz} {inputs : List (UUID × CreateJobInput)} {site site' : Site}
      {rows : List Job}, site.createJobBatch now inputs = .ok (site', rows) →
        site'.organizations = site.organizations := by
    intro now inputs site site' rows creates
    obtain ⟨⟨db, jobs⟩, _, result⟩ := succeeded_of_map creates
    cases result
    rfl
  cases write with
  | updateOrg done =>
      obtain ⟨db, updates, rfl⟩ := succeeded_of_map done
      obtain ⟨_, _, rfl⟩ := Database.updateOrg_spec updates
      exact forall_mem_update same fun org member _ => ⟨org, member, rfl⟩
  | deleteOrg done =>
      obtain ⟨db, deletes, rfl⟩ := succeeded_of_map done
      obtain ⟨_, rfl⟩ := Database.deleteOrg_spec deletes
      exact forall_mem_filter same
  | createProject draws done | updateProject done | deleteProject done
  | createQueue draws owner done | updateQueue done | deleteQueue done | setPaused done =>
      obtain ⟨_, _, rfl⟩ := succeeded_of_map done
      exact same
  | createJob draws found builds done =>
      obtain ⟨⟨db, result⟩, _, result⟩ := succeeded_of_map done
      cases result
      exact same
  | createJobBatch draws sized found builds done =>
      rw [created done]
      exact same
  | retryDLQJob done =>
      obtain ⟨⟨db, job⟩, _, result⟩ := succeeded_of_map done
      cases result
      exact same

/-- Without its row an organization has no rows. -/
theorem Site.Sound.tenant_eq_nothing {site : Site} (sound : site.Sound) {o : UUID}
    (gone : ¬ ∃ org ∈ site.organizations, org.id = o) :
    site.tenant o = Tenant.nothing ∧ site.usersOf o = ∅ := by
  have noProject : ∀ p ∈ site.projects, p.orgId ≠ o := by
    rintro p member rfl
    exact gone (sound.projectOrganizations p member)
  have noQueue : ∀ q, ¬ site.QueueOf o q := by
    rintro q ⟨p, member, _, owner⟩
    exact noProject p member owner
  have noQueueId : ∀ id, ¬ site.QueueIdOf o id := by
    rintro id ⟨q, _, _, owner⟩
    exact noQueue q owner
  have noJobId : ∀ id, ¬ site.JobIdOf o id := by
    rintro id ⟨j, _, _, owner⟩
    exact noQueueId _ owner
  refine ⟨Tenant.ext ?_ ?_ ?_ ?_ ?_ ?_ ?_, ?_⟩
  · exact Set.eq_empty_of_forall_notMem fun org both => gone ⟨org, both⟩
  · exact Set.eq_empty_of_forall_notMem fun p both => noProject p both.1 both.2
  · exact Set.eq_empty_of_forall_notMem fun q both => noQueue q both.2
  · exact Set.eq_empty_of_forall_notMem fun j both => noQueueId _ both.2
  · exact Set.eq_empty_of_forall_notMem fun e both => noJobId _ both.2
  · exact Set.eq_empty_of_forall_notMem fun l both => noJobId _ both.2
  · exact Set.eq_empty_of_forall_notMem fun d both => noQueueId _ both.2
  · refine Set.eq_empty_of_forall_notMem fun u both => ?_
    obtain ⟨org, member, same⟩ := sound.userOrganizations u both.1
    exact gone ⟨org, member, same.trans both.2⟩

namespace Server

variable {server : Server} {s s' : ServiceState} {call : Call} {o : UUID}

/-- The organization was there once and is not any more. -/
def Gone (o : UUID) (s : ServiceState) : Prop :=
  o ∈ s.drawn ∧ ¬ ∃ org ∈ s.site.organizations, org.id = o

theorem Gone.step (gone : Gone o s) (intact : Intact server s)
    (taken : server.service.step s call = some s') : Gone o s' := by
  obtain ⟨_, new, rfl⟩ := service_step taken
  refine ⟨List.mem_append_right _ gone.1, ?_⟩
  rcases serve_cases (intact.fresh new) with same | registers | ⟨token, claims, authorizes⟩
  · rw [same]
    exact gone.2
  · obtain ⟨req, hash, token, _, _, done⟩ := registers.account
    have unlisted : call.fresh 0 ∉ s.drawn := by
      refine new _ ?_
      rw [drawn, registers.route]
      exact List.mem_cons_self
    rw [done]
    rintro ⟨org, member, rfl⟩
    rcases List.mem_append.mp member with old | added
    · exact gone.2 ⟨org, old, rfl⟩
    · rw [List.mem_singleton.mp added] at gone
      exact unlisted gone.1
  · rintro ⟨org, member, rfl⟩
    exact gone.2 (authorizes.write.organizations org member)

/-- The organization whose deletion is answered with `204` was there and is gone. -/
theorem gone_of_delete (intact : Intact server s)
    (taken : server.service.step s call = some s')
    (found : server.route? call = some (.authenticated (.deleteOrg (some o))))
    (succeeds : (server.serve call s.site).1.status = 204) : Gone o s' := by
  obtain ⟨_, _, rfl⟩ := service_step taken
  unfold serve at succeeds ⊢
  simp only [found] at succeeds ⊢
  split at succeeds
  · cases succeeds
  next claims granted =>
    simp only [ServerResponse.status, ApiRequest.handle, OrgHandler.delete, OrgHandler.ownOnly,
      withId] at succeeds ⊢
    split at succeeds
    · cases succeeds
    next same =>
      rw [if_neg same]
      cases deletes : s.site.deleteOrg o with
      | error e =>
          rw [deletes] at succeeds
          have fails := ApiResponse.failure_status ("org " ++ call.env.idText o ++ ": ") "" e
          simp only [conclude] at succeeds
          omega
      | ok site' =>
          obtain ⟨db, written, rfl⟩ := succeeded_of_map deletes
          obtain ⟨⟨org, member, here⟩, rfl⟩ := Database.deleteOrg_spec written
          refine ⟨List.mem_append_right _ (here ▸ intact.within.organizations org member), ?_⟩
          rintro ⟨org', member', same'⟩
          exact of_decide_eq_true (List.mem_filter.mp member').2 same'

end Server

/-- **Deletion is final.** Once the deletion of an organization was answered with success, no row
of it and no user of it appears again, nobody is given a session for it, and what an old token is
used for leaves all tables as they are. -/
theorem deletion_final {server : Server} {later earlier : List (ServiceState × Call)}
    {s last : ServiceState} {call : Call} (run : Run server.service (later ++ (s, call) :: earlier) last) {o : UUID}
    (found : server.route? call = some (.authenticated (.deleteOrg (some o))))
    (succeeds : (server.serve call s.site).1.status = 204) :
    (∀ t, t = last ∨ (∃ c, (t, c) ∈ later) →
      t.site.tenant o = Tenant.nothing ∧ t.site.usersOf o = ∅) ∧
    ∀ t c, (t, c) ∈ later → (∀ session, server.Opens t c session → session.user.orgId ≠ o) ∧
      ∀ token claims, c.request.authorization = "Bearer " ++ token →
        server.jwt.validateToken c.env.instant token = .ok claims → claims.orgId = o →
        server.route? c ≠ some .register → (server.serve c t.site).2 = t.site := by
  obtain ⟨s', first, path⟩ := run.split
  have always : Meets (fun _ _ => True) later := fun _ _ => trivial
  have start : Server.Intact server s' ∧ Server.Gone o s' := by
    refine ⟨Server.intact_of_run first, ?_⟩
    cases first with
    | next _ previous taken =>
        exact Server.gone_of_delete (Server.intact_of_run previous) taken found succeeds
  have throughout : Throughout (fun t => Server.Intact server t ∧ Server.Gone o t) later last := by
    refine path.throughout always start ?_
    rintro t c t' taken _ ⟨intact, gone⟩
    exact ⟨intact.step taken, gone.step intact taken⟩
  have empty : ∀ t, Server.Intact server t ∧ Server.Gone o t →
      t.site.tenant o = Tenant.nothing ∧ t.site.usersOf o = ∅ :=
    fun t both => both.1.sound.tenant_eq_nothing both.2.2
  refine ⟨?_, ?_⟩
  · rintro t (rfl | ⟨c, member⟩)
    · exact empty _ throughout.2
    · exact empty t (throughout.1 _ member)
  · intro t c member
    obtain ⟨intact, gone⟩ := throughout.1 _ member
    obtain ⟨_, _, _, t', taken⟩ := run.before (List.mem_append_left _ member)
    obtain ⟨_, new, _⟩ := Server.service_step taken
    refine ⟨fun session opens => ?_, fun token claims header valid owner other => ?_⟩
    · rcases opens.user with ⟨route, registered⟩ | listed
      · intro here
        refine new (c.fresh 0) ?_ ?_
        · rw [Server.drawn, route]
          exact List.mem_cons_self
        · rw [← registered, here]
          exact gone.1
      · intro here
        have none := (empty t ⟨intact, gone⟩).2
        exact Set.notMem_empty session.user (none ▸ ⟨listed, here⟩)
    · rcases Server.serve_cases (intact.fresh new) with same | registers |
        ⟨token', claims', authorizes⟩
      · exact same
      · exact absurd registers.route other
      · have cut := cutPrefix_eq_some_iff.mpr header
        rw [cutPrefix_eq_some_iff.mpr authorizes.header] at cut
        cases cut
        cases authorizes.valid.symm.trans valid
        exact absurd (owner ▸ authorizes.write.organization intact.sound) gone.2

open ServerScenario in
theorem deletion_final_old_token :
    (plainServer.after deleted (submission 30)).site.tenant 1 = Tenant.nothing ∧
      (plainServer.serve (submission 30) deleted.site).2 = deleted.site := by
  have succeeds : (plainServer.serve deletion registered.site).1.status = 204 := by
    rw [registered_site]
    exact serve_deletion_status
  have run : Run plainServer.service ([(deleted, submission 30)] ++ (registered, deletion) ::
      [(.start, registration)]) (plainServer.after deleted (submission 30)) := run_deleted
  have final := deletion_final run route_deletion succeeds
  refine ⟨(final.1 _ (.inl rfl)).1, (final.2 deleted _ List.mem_cons_self).2 adminToken admin.claims
    rfl ?_ rfl ?_⟩
  · have signed : plainServer.jwt.generateToken 0 admin.claims = some adminToken := rfl
    exact (JWTService.validateToken_eq_ok_iff signed).mpr ⟨by decide, rfl⟩
  · rw [route_submission]
    exact fun same => by cases same

end JobScheduler
