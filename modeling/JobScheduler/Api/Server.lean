import Mathlib
import JobScheduler.Api.Auth
import JobScheduler.Api.Schema

/-!
# The server

`internal/api/server.go` and `middleware.go` over the handlers: the routes by method and path, the
`Auth` middleware in front of the authenticated ones, and the tokens of `pkg/auth/jwt.go` with
their expiry. The service takes requests one after the other, each as one step; the packages that
sign and parse are parameters with what the code relies on.

A request that fails, and every `GET`, leaves the tables as they are. In every run each change of
an organization's rows is made by its registration, or by a request that bears an unexpired token
which a registration or a login of one of its users was answered with. An organization that was
deleted stays deleted, whatever tokens its users still hold.
-/

set_option autoImplicit false

namespace JobScheduler

open Relational Transition

/-! ## Tokens -/

/-- `jwtClaims`. The instants are in seconds, as a `NumericDate` holds them. -/
structure JwtClaims where
  issuedAt : Int
  expiresAt : Int
  userId : String
  orgId : String
  email : String
  role : String

/-- The packages `golang-jwt` and `uuid`: a signed token is parsed with its secret until it
expires and rejected from then on, and the text of an identifier is parsed back. -/
structure JwtPackage where
  signedString : String → JwtClaims → Option String
  parseWithClaims : String → Time → String → Except String JwtClaims
  uuidString : UUID → String
  uuidParse : String → Except String UUID
  signs : ∀ secret claims, ∃ raw, signedString secret claims = some raw
  parses : ∀ secret claims raw now, signedString secret claims = some raw →
    now < claims.expiresAt * 1000000000 → parseWithClaims secret now raw = .ok claims
  expires : ∀ secret claims raw now, signedString secret claims = some raw →
    claims.expiresAt * 1000000000 ≤ now → ∃ text, parseWithClaims secret now raw = .error text
  parsesUuid : ∀ id, uuidParse (uuidString id) = .ok id

/-- `JWTService`. A token that lives for less than a second may be expired when it is issued. -/
structure JWTService where
  package : JwtPackage
  secret : String
  ttl : Int
  lasting : 1000000000 ≤ ttl

namespace JWTService

variable (service : JWTService)

/-- The instant from which a token of `now` is expired, in seconds. -/
def expiry (now : Time) : Int := (now + service.ttl) / 1000000000

/-- The claims as they are signed. -/
def jwtClaims (now : Time) (c : Claims) : JwtClaims where
  issuedAt := now / 1000000000
  expiresAt := service.expiry now
  userId := service.package.uuidString c.userId
  orgId := service.package.uuidString c.orgId
  email := c.email
  role := c.role

/-- `JWTService.GenerateToken`. -/
def generateToken (now : Time) (c : Claims) : Option String :=
  service.package.signedString service.secret (service.jwtClaims now c)

/-- `JWTService.ValidateToken`. -/
def validateToken (now : Time) (raw : String) : Except String Claims :=
  match service.package.parseWithClaims service.secret now raw with
  | .error text => .error ("jwt parse: " ++ text)
  | .ok claims =>
      match service.package.uuidParse claims.userId with
      | .error text => .error ("jwt bad user_id: " ++ text)
      | .ok uid =>
          match service.package.uuidParse claims.orgId with
          | .error text => .error ("jwt bad org_id: " ++ text)
          | .ok oid => .ok ⟨uid, oid, claims.email, claims.role⟩

variable {service}

/-- A token is valid until it expires, and then carries the claims it was generated from. -/
theorem validateToken_eq_ok_iff {issued now : Time} {c claims : Claims} {raw : String}
    (generates : service.generateToken issued c = some raw) :
    service.validateToken now raw = .ok claims ↔
      now < service.expiry issued * 1000000000 ∧ claims = c := by
  unfold validateToken
  by_cases fresh : now < service.expiry issued * 1000000000
  · rw [service.package.parses _ _ _ now generates fresh]
    simp only [jwtClaims, service.package.parsesUuid, Except.ok.injEq, fresh, true_and]
    exact eq_comm
  · obtain ⟨text, rejected⟩ :=
      service.package.expires _ _ _ now generates (not_lt.mp fresh)
    rw [rejected]
    simp [fresh]

/-- A token expires within the last second of its lifetime. -/
theorem expiry_bounds (service : JWTService) (now : Int) :
    service.expiry now * 1000000000 ≤ now + service.ttl ∧
      now + service.ttl < (service.expiry now + 1) * 1000000000 :=
  ⟨Int.ediv_mul_le _ (by decide), Int.lt_ediv_add_one_mul_self _ (by decide)⟩

/-- The service at one instant, as the handlers use it. -/
def jwt (service : JWTService) (now : Time) : Jwt String where
  generateToken := service.generateToken now
  validateToken raw := (service.validateToken now raw).toOption
  signs claims := by
    obtain ⟨raw, signed⟩ := service.package.signs service.secret (service.jwtClaims now claims)
    refine ⟨raw, signed, ?_⟩
    have fresh : now < service.expiry now * 1000000000 := by
      have late := (service.expiry_bounds now).2
      have ttl := service.lasting
      rw [add_mul, one_mul] at late
      exact lt_of_add_lt_add_right (lt_of_le_of_lt (by gcongr) late)
    rw [(validateToken_eq_ok_iff signed).mpr ⟨fresh, rfl⟩]
    rfl

end JWTService

/-! ## Requests -/

/-- The method of a request; the last one is any other that the router knows. -/
inductive Method where
  | get
  | post
  | put
  | delete
  | other
deriving DecidableEq

/-- The query parameters, as the handlers parse them. -/
structure RequestQuery where
  page : PageQuery
  name : String
  status : String
  isPaused : Param Bool
  projectId : Param UUID
  queueId : Param UUID

/-- The body, as each handler decodes it. -/
structure RequestBody where
  register : Body RegisterRequest
  login : Body LoginRequest
  updateOrg : Body UpdateOrgRequest
  createProject : Body CreateProjectRequest
  updateProject : Body UpdateProjectRequest
  createQueue : Body CreateQueueRequest
  updateQueue : Body UpdateQueueRequest
  createJob : Body CreateJobRequest
  createBatch : Body (List CreateJobRequest)

/-- `http.Request`: the path is split at its slashes, the `Authorization` header is empty when
there is none. -/
structure HttpRequest where
  method : Method
  path : List String
  authorization : String
  query : RequestQuery
  body : RequestBody

/-- A request with what serving it meets and draws. -/
structure Call where
  request : HttpRequest
  env : ApiEnv
  salt : Nat
  fresh : Nat → UUID

/-! ## Routes -/

/-- What a handler is registered for. -/
inductive Route where
  | healthz
  | metrics
  | register
  | login
  | authenticated (request : ApiRequest)

/-- A path that ends with a parameter is not matched by an empty one. -/
def endsWith (parameter : String) (routes : List (Method × ApiRequest)) :
    List (Method × ApiRequest) :=
  if parameter = "" then [] else routes

/-- The authenticated routes of a path, by method. -/
def Call.authenticatedRoutes (call : Call) (uuid : String → Option UUID) :
    List (Method × ApiRequest) :=
  let query := call.request.query
  let body := call.request.body
  let id := call.fresh 0
  match call.request.path with
  | ["orgs", org] => endsWith org
      [(.get, .getOrg (uuid org)), (.put, .updateOrg (uuid org) body.updateOrg),
        (.delete, .deleteOrg (uuid org))]
  | ["projects"] =>
      [(.get, .listProjects query.name query.page),
        (.post, .createProject body.createProject id)]
  | ["projects", project] => endsWith project
      [(.get, .getProject (uuid project)),
        (.put, .updateProject (uuid project) body.updateProject),
        (.delete, .deleteProject (uuid project))]
  | ["queues"] =>
      [(.get, .listQueues query.name query.isPaused query.projectId query.page),
        (.post, .createQueue body.createQueue id)]
  | ["queues", queue] => endsWith queue
      [(.get, .getQueue (uuid queue)), (.put, .updateQueue (uuid queue) body.updateQueue),
        (.delete, .deleteQueue (uuid queue))]
  | ["queues", queue, "pause"] => [(.post, .pauseQueue (uuid queue))]
  | ["queues", queue, "resume"] => [(.post, .resumeQueue (uuid queue))]
  | ["queues", queue, "jobs"] =>
      [(.post, .createJob (uuid queue) body.createJob id),
        (.get, .listByQueue (uuid queue) query.status query.page)]
  | ["queues", queue, "jobs", "batch"] =>
      -- the batch draws its own identifier first, then one for each job
      let jobs := body.createBatch.map fun requests =>
        requests.zipIdx.map fun entry => (call.fresh (entry.2 + 1), entry.1)
      [(.post, .createBatch (uuid queue) jobs id)]
  | ["queues", queue, "stats"] => [(.get, .queueStats (uuid queue))]
  | ["jobs"] => [(.get, .listJobs query.status query.queueId query.page)]
  | ["jobs", job] => endsWith job [(.get, .getJob (uuid job))]
  | ["jobs", job, "retry"] => [(.post, .retryJob (uuid job))]
  | ["jobs", job, "executions"] => [(.get, .getExecutions (uuid job))]
  | ["jobs", job, "logs"] => [(.get, .getLogs (uuid job))]
  | ["dlq"] => [(.get, .listDLQ query.page)]
  | ["workers"] => [(.get, .listWorkers)]
  | _ => []

/-- `Server.routes`: what is registered for a path, by method. -/
def Call.routes (call : Call) (uuid : String → Option UUID) : List (Method × Route) :=
  match call.request.path with
  | ["healthz"] => [(.get, .healthz)]
  | ["metrics"] => [Method.get, .post, .put, .delete, .other].map fun method => (method, .metrics)
  | ["auth", "register"] => [(.post, .register)]
  | ["auth", "login"] => [(.post, .login)]
  | _ => (call.authenticatedRoutes uuid).map fun entry => (entry.1, .authenticated entry.2)

/-- The reading requests are registered for `GET`, and only they. -/
theorem Call.reads_of_authenticatedRoutes (call : Call) (uuid : String → Option UUID) :
    ∀ entry ∈ call.authenticatedRoutes uuid, entry.1 = .get ↔ entry.2.reads = true := by
  have ends : ∀ {parameter : String} {routes : List (Method × ApiRequest)},
      (∀ entry ∈ routes, entry.1 = .get ↔ entry.2.reads = true) →
      ∀ entry ∈ endsWith parameter routes, entry.1 = .get ↔ entry.2.reads = true := by
    intro parameter routes all
    unfold endsWith
    split
    · exact List.forall_mem_nil _
    · exact all
  unfold Call.authenticatedRoutes
  dsimp only
  split <;> (try refine ends ?_) <;> simp [ApiRequest.reads]

/-! ## Serving a request -/

/-- What `NewServer` is given, the repositories apart. -/
structure Server where
  jwt : JWTService
  demoAuth : Bool
  bcrypt : Bcrypt
  /-- `%q`. -/
  quote : String → String

/-- The response of the router, or of the handler it came to. -/
inductive ServerResponse where
  | healthy
  | metrics
  | notFound
  | methodNotAllowed
  | auth (response : AuthResponse String)
  | api (response : ApiResponse)

/-- The status code. -/
def ServerResponse.status : ServerResponse → Nat
  | .healthy | .metrics => 200
  | .notFound => 404
  | .methodNotAllowed => 405
  | .auth (.session status _ _) => status
  | .auth (.failed response) => response.status
  | .api response => response.status

/-- `strings.CutPrefix`. -/
def cutPrefix (start text : String) : Option String :=
  if start.toList <+: text.toList then
    some (String.ofList (text.toList.drop start.toList.length))
  else none

theorem cutPrefix_eq_some_iff {start text rest : String} :
    cutPrefix start text = some rest ↔ text = start ++ rest := by
  have lists : text = start ++ rest ↔ text.toList = start.toList ++ rest.toList := by
    rw [← String.toList_inj, String.toList_append]
  rw [lists]
  unfold cutPrefix
  by_cases starts : start.toList <+: text.toList
  · obtain ⟨remaining, same⟩ := starts
    rw [if_pos ⟨remaining, same⟩, ← same, List.drop_left, Option.some.injEq,
      List.append_cancel_left_eq, ← String.toList_inj, String.toList_ofList]
  · rw [if_neg starts]
    refine iff_of_false (by simp) fun same => starts ⟨rest.toList, same.symm⟩

namespace Server

variable (server : Server)

/-- The `AuthHandler` at one instant. -/
def authHandler (now : Time) : AuthHandler String where
  bcrypt := server.bcrypt
  jwt := server.jwt.jwt now
  demoAuth := server.demoAuth
  quote := server.quote

/-- The middleware `Auth`: the claims, or the message it answers with. -/
def auth (now : Time) (header : String) : Except String Claims :=
  if header = "" then .error "missing authorization header"
  else
    match cutPrefix "Bearer " header with
    | none => .error "invalid authorization format"
    | some token =>
        match server.jwt.validateToken now token with
        | .error text => .error ("invalid token: " ++ text)
        | .ok claims => .ok claims

/-- The route of a call, when the router finds one. -/
def route? (call : Call) : Option Route :=
  (call.routes fun text => (server.jwt.package.uuidParse text).toOption).lookup call.request.method

/-- What `Register` draws. -/
def registerDraw (call : Call) : RegisterDraw :=
  ⟨call.env.now, call.fresh 0, call.fresh 1, call.salt⟩

/-- The identifiers that a call draws. -/
def drawn (call : Call) : List UUID :=
  match server.route? call with
  | some .register => [call.fresh 0, call.fresh 1]
  | some (.authenticated request) => request.identifiers
  | _ => []

/-- `Server.ServeHTTP`: the response, and the tables after it. -/
def serve (call : Call) (site : Site) : ServerResponse × Site :=
  match server.route? call with
  | none =>
      -- `chi` tells a path it does not know from a method it does not know for the path
      if call.routes (fun text => (server.jwt.package.uuidParse text).toOption) = [] then
        (.notFound, site)
      else (.methodNotAllowed, site)
  | some .healthz => (.healthy, site)
  | some .metrics => (.metrics, site)
  | some .register =>
      let done := (server.authHandler call.env.instant).register (registerDraw call)
        call.request.body.register site
      (.auth done.1, done.2)
  | some .login =>
      (.auth ((server.authHandler call.env.instant).login call.env.rank site
        call.request.body.login), site)
  | some (.authenticated request) =>
      match server.auth call.env.instant call.request.authorization with
      | .error message => (.api ⟨401, .error message "UNAUTHORIZED" []⟩, site)
      | .ok claims =>
          let done := request.handle call.env claims.orgId site
          (.api done.1, done.2)

variable {server}

/-! ## What a call does -/

/-- Claims come from a token in the header. -/
theorem auth_eq_ok {now : Time} {header : String} {claims : Claims}
    (succeeds : server.auth now header = .ok claims) :
    ∃ token, header = "Bearer " ++ token ∧ server.jwt.validateToken now token = .ok claims := by
  unfold auth at succeeds
  split at succeeds
  · cases succeeds
  · split at succeeds
    · cases succeeds
    next token found =>
      split at succeeds
      · cases succeeds
      next claims' valid =>
        cases succeeds
        exact ⟨token, cutPrefix_eq_some_iff.mp found, valid⟩

/-- A registration that fails leaves the tables as they are. -/
theorem register_failed {h : AuthHandler String} {draw : RegisterDraw}
    {body : Body RegisterRequest} {site : Site} {response : ApiResponse}
    (fails : (h.register draw body site).1 = .failed response) :
    (h.register draw body site).2 = site := by
  unfold AuthHandler.register at fails ⊢
  cases body with
  | error message => rfl
  | ok req =>
      simp only at fails ⊢
      split
      · split
        · rfl
        · split
          · rfl
          next valid _ hash hashes _ done inserts =>
            -- the account is there, and tokens are signed without fail
            obtain ⟨token, opens, _⟩ := h.openSession_eq 201 (AuthHandler.newUser draw req hash)
            simp only [valid, hashes, inserts, opens] at fails
            cases fails
      · rfl

/-- The route of a registered method is one of the path's. -/
theorem mem_of_lookup {α β : Type} [BEq α] [LawfulBEq α] {key : α} {value : β} :
    ∀ {entries : List (α × β)}, entries.lookup key = some value → (key, value) ∈ entries
  | [], found => by cases found
  | (key', value') :: rest, found => by
      rw [List.lookup_cons] at found
      split at found
      next same =>
        cases found
        rw [eq_of_beq same]
        exact List.mem_cons_self
      · exact List.mem_cons_of_mem _ (mem_of_lookup found)

/-- An authenticated request reads exactly when it comes with `GET`. -/
theorem reads_iff_get {call : Call} {request : ApiRequest}
    (found : server.route? call = some (.authenticated request)) :
    request.reads = true ↔ call.request.method = .get := by
  have registered := mem_of_lookup found
  unfold Call.routes at registered
  split at registered
  · simp at registered
  · simp at registered
  · simp at registered
  · simp at registered
  · obtain ⟨entry, listed, same⟩ := List.mem_map.mp registered
    obtain ⟨method, route⟩ := Prod.mk.inj same
    cases route
    rw [← method]
    exact (call.reads_of_authenticatedRoutes _ entry listed).symm

theorem method_of_register {call : Call} (found : server.route? call = some .register) :
    call.request.method = .post := by
  have registered := mem_of_lookup found
  unfold Call.routes at registered
  split at registered
  · simp at registered
  · simp at registered
  · simpa using registered
  · simp at registered
  · obtain ⟨entry, _, same⟩ := List.mem_map.mp registered
    cases (Prod.mk.inj same).2

/-- A session is opened with a new token for the user. -/
theorem openSession_eq_session {h : AuthHandler String} {status status' : Nat} {user user' : User}
    {token : String} (opens : h.openSession status user = .session status' token user') :
    status' = status ∧ user' = user ∧ h.jwt.generateToken user.claims = some token := by
  unfold AuthHandler.openSession at opens
  split at opens
  · cases opens
  next generates =>
    cases opens
    exact ⟨rfl, rfl, generates⟩

/-- A registration that is answered with a session has created its user. -/
theorem register_session {h : AuthHandler String} {draw : RegisterDraw}
    {body : Body RegisterRequest} {site : Site} {status : Nat} {token : String} {user : User}
    (succeeds : (h.register draw body site).1 = .session status token user) :
    status = 201 ∧ user.orgId = draw.orgId ∧ h.jwt.generateToken user.claims = some token := by
  unfold AuthHandler.register at succeeds
  split at succeeds
  · cases succeeds
  · split at succeeds
    · split at succeeds
      · cases succeeds
      · split at succeeds
        · cases succeeds
        · obtain ⟨rfl, rfl, generates⟩ := openSession_eq_session succeeds
          exact ⟨rfl, rfl, generates⟩
    · cases succeeds

/-- A login that is answered with a session: the user is in the table. -/
theorem login_session {h : AuthHandler String} {rank : UUID → Nat} {site : Site}
    {body : Body LoginRequest} {status : Nat} {token : String} {user : User}
    (succeeds : h.login rank site body = .session status token user) :
    status = 200 ∧ user ∈ site.users ∧ h.jwt.generateToken user.claims = some token := by
  have listed : ∀ {email : String}, site.getByEmail rank email = .ok user → user ∈ site.users := by
    intro email found
    unfold Site.getByEmail at found
    split at found
    next first chosen =>
      cases found
      exact List.mem_of_mem_filter (mem_of_head?_arrange chosen)
    · cases found
  unfold AuthHandler.login at succeeds
  split at succeeds
  · cases succeeds
  · split at succeeds
    · cases succeeds
    · split at succeeds
      · split at succeeds
        · cases succeeds
        next found resolves =>
          obtain ⟨rfl, rfl, generates⟩ := openSession_eq_session succeeds
          refine ⟨rfl, ?_, generates⟩
          unfold AuthHandler.resolveDemoUser at resolves
          split at resolves
          next there =>
            cases resolves
            exact listed there
          · exact listed resolves
      · split at succeeds
        · cases succeeds
        next found there =>
          split at succeeds
          · obtain ⟨rfl, rfl, generates⟩ := openSession_eq_session succeeds
            exact ⟨rfl, listed there, generates⟩
          · cases succeeds

/-- **Failures and `GET` leave no trace.** Whatever the path, the header and the body, a request
that is answered with an error, and one that comes with `GET`, leaves the tables as they are. -/
theorem serve_unchanged (server : Server) (call : Call) (site : Site)
    (idle : 400 ≤ (server.serve call site).1.status ∨ call.request.method = .get) :
    (server.serve call site).2 = site := by
  unfold serve at idle ⊢
  split at idle
  · split <;> rfl
  · rfl
  · rfl
  next found =>
    rcases idle with fails | reads
    · cases response : ((server.authHandler call.env.instant).register (registerDraw call)
          call.request.body.register site).1 with
      | failed response' => exact register_failed response
      | session status token user =>
          obtain ⟨rfl, _⟩ := register_session response
          simp [response, ServerResponse.status] at fails
    · cases (method_of_register found).symm.trans reads
  · rfl
  next request found =>
    split at idle
    · rfl
    next claims _ =>
      by_contra changed
      obtain ⟨writes, succeeds, _⟩ := handle_changes changed
      rcases idle with fails | reads
      · exact absurd succeeds (not_lt.mpr (le_trans (by decide) fails))
      · rw [(reads_iff_get found).mpr reads] at writes
        cases writes

end Server

/-! ## A server with tokens that can be read

A token lists the secret and the claims, with a colon before each character and a dot after each
part. -/

def writePart (text : String) : List Char := text.toList.flatMap (fun c => [':', c]) ++ ['.']

def readPart : List Char → Option (List Char × List Char)
  | '.' :: rest => some ([], rest)
  | ':' :: c :: rest => (readPart rest).map fun part => (c :: part.1, part.2)
  | _ => none

/-- Read so many parts, and nothing else. -/
def readParts : Nat → List Char → Option (List String)
  | 0, [] => some []
  | 0, _ :: _ => none
  | n + 1, text =>
      (readPart text).bind fun part => (readParts n part.2).map (String.ofList part.1 :: ·)

theorem readPart_writePart (text : String) (rest : List Char) :
    readPart (writePart text ++ rest) = some (text.toList, rest) := by
  unfold writePart
  generalize text.toList = chars
  induction chars with
  | nil => rfl
  | cons c chars ih =>
      rw [List.append_assoc] at ih
      rw [List.flatMap_cons, List.append_assoc, List.append_assoc, List.cons_append,
        List.cons_append, List.nil_append, readPart, ih, Option.map_some]

theorem readParts_flatMap : ∀ parts : List String,
    readParts parts.length (parts.flatMap writePart) = some parts
  | [] => rfl
  | part :: parts => by
      rw [List.flatMap_cons, List.length_cons, readParts, readPart_writePart, Option.bind_some,
        readParts_flatMap parts, Option.map_some, String.ofList_toList]

/-- What a token says. -/
def tokenParts (secret : String) (claims : JwtClaims) : List String :=
  [secret, claims.issuedAt.repr, claims.expiresAt.repr, claims.userId, claims.orgId, claims.email,
    claims.role]

def plainSign (secret : String) (claims : JwtClaims) : String :=
  String.ofList ((tokenParts secret claims).flatMap writePart)

def plainParse (secret : String) (now : Time) (raw : String) : Except String JwtClaims :=
  match readParts 7 raw.toList with
  | some [key, issuedAt, expiresAt, userId, orgId, email, role] =>
      if key ≠ secret then .error "signature is invalid"
      else
        match issuedAt.toInt?, expiresAt.toInt? with
        | some issued, some expires =>
            if expires * 1000000000 ≤ now then .error "token is expired"
            else .ok ⟨issued, expires, userId, orgId, email, role⟩
        | _, _ => .error "token is malformed"
  | _ => .error "token is malformed"

/-- A token is parsed back. -/
theorem plainParse_plainSign (secret : String) (now : Time) (claims : JwtClaims) :
    plainParse secret now (plainSign secret claims) =
      if claims.expiresAt * 1000000000 ≤ now then .error "token is expired" else .ok claims := by
  have parts := readParts_flatMap (tokenParts secret claims)
  rw [show (tokenParts secret claims).length = 7 from rfl] at parts
  unfold plainParse plainSign
  rw [String.toList_ofList, parts]
  simp only [tokenParts, ne_eq, not_true_eq_false, if_false, Int.toInt?_repr]

def plainPackage : JwtPackage where
  signedString secret claims := some (plainSign secret claims)
  parseWithClaims := plainParse
  uuidString := Nat.repr
  uuidParse text :=
    match text.toNat? with
    | none => .error "invalid UUID"
    | some id => .ok id
  signs _ _ := ⟨_, rfl⟩
  parses secret claims raw now signed fresh := by
    cases signed
    rw [plainParse_plainSign, if_neg (not_le.mpr fresh)]
  expires secret claims raw now signed late := by
    cases signed
    exact ⟨_, by rw [plainParse_plainSign, if_pos late]⟩
  parsesUuid id := by rw [Nat.toNat?_repr]

/-- A server with tokens that live for a day. -/
def plainServer : Server where
  jwt := ⟨plainPackage, "change-me-in-production", 86400000000000, by decide⟩
  demoAuth := false
  bcrypt := plainBcrypt
  quote text := "\"" ++ text ++ "\""

/-- A request without a body. -/
def plainRequest (method : Method) (path : List String) (authorization : String) :
    HttpRequest where
  method := method
  path := path
  authorization := authorization
  query := ⟨⟨20, .absent⟩, "", "", .absent, .absent, .absent⟩
  body := ⟨.error "EOF", .error "EOF", .error "EOF", .error "EOF", .error "EOF", .error "EOF",
    .error "EOF", .error "EOF", .error "EOF"⟩

/-- A call that draws from an identifier on. -/
def plainCall (request : HttpRequest) (first : UUID) : Call := ⟨request, plainEnv, 0, (first + ·)⟩

theorem serve_unchanged_unauthorized :
    (plainServer.serve (plainCall (plainRequest .post ["projects"] "") 1)
        twoOrganizations).1.status = 401 ∧
      (plainServer.serve (plainCall (plainRequest .post ["projects"] "") 1) twoOrganizations).2 =
        twoOrganizations :=
  have rejected : (plainServer.serve (plainCall (plainRequest .post ["projects"] "") 1)
      twoOrganizations).1.status = 401 := rfl
  ⟨rejected, Server.serve_unchanged _ _ _ (.inl (by rw [rejected]; decide))⟩

end JobScheduler
