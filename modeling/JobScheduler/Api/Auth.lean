import JobScheduler.Api.Handlers
import JobScheduler.Relational.Ranking
import JobScheduler.Transition.Run

/-!
# Registration and login

The public routes of `internal/api/auth_handler.go`, with the methods of `UserRepository`
(`internal/store/user.go`) they call. `bcrypt` and the signing of tokens come with what the code
relies on: a password verifies against a hash exactly when the hash was made from it, no two
passwords make one hash, and a token carries the claims it was made of.

An email is unique within an organization, and every registration founds an organization of its
own. `Login` looks for the email in all of them and takes the row that comes first. So every
login that succeeds is for a user with that email and that password, but a registered user can
log in, as himself and whatever row comes first, exactly as long as no accepted registration
repeats an email of the table (`registered_log_in_iff`).
-/

set_option autoImplicit false

namespace JobScheduler

open Relational Transition

/-! ## Passwords and tokens -/

/-- `HashPassword`, which draws a salt and rejects long passwords, and `CheckPassword`. A password
verifies against its hashes, and not every password against the same one. -/
structure Bcrypt where
  hashPassword : Nat → String → Option String
  checkPassword : String → String → Bool
  verifies : ∀ salt password hash, hashPassword salt password = some hash →
    checkPassword hash password = true
  rejects : ∀ hash, ∃ password, password ≠ "" ∧ checkPassword hash password = false

/-- `domain.Claims`. -/
structure Claims where
  userId : UUID
  orgId : UUID
  email : String
  role : String

/-- `GenerateToken`, and `ValidateToken` before the token expires. Signing with a secret in
memory does not fail. -/
structure Jwt (Token : Type) where
  generateToken : Claims → Option Token
  validateToken : Token → Option Claims
  signs : ∀ claims, ∃ token, generateToken claims = some token ∧
    validateToken token = some claims

/-- The claims in the token of a user. -/
def User.claims (user : User) : Claims := ⟨user.id, user.orgId, user.email, user.role⟩

/-! ## The store -/

namespace Site

variable (site : Site)

/-- `OrgRepository.Create`. -/
def createOrg (now : Timestamptz) (id : UUID) (name slug : String) : Except StoreError Site :=
  (site.core.createOrg now id name slug).map fun db =>
    { site with organizations := db.organizations }

theorem createOrg_eq (now : Timestamptz) (id : UUID) (name slug : String) :
    site.createOrg now id name slug =
      if ∃ o ∈ site.organizations, o.slug = slug then .error .conflict
      else .ok { site with
        organizations := site.organizations ++ [⟨id, name, slug, now, now⟩] } := by
  by_cases taken : ∃ o ∈ site.organizations, o.slug = slug
  · have conflicts : site.core.createOrg now id name slug = .error .conflict := if_pos taken
    rw [createOrg, conflicts, if_pos taken]
    rfl
  · have creates : site.core.createOrg now id name slug = .ok { site.core with
        organizations := site.organizations ++ [⟨id, name, slug, now, now⟩] } := if_neg taken
    rw [createOrg, creates, if_neg taken]
    rfl

/-- `UserRepository.Create`: the email is unique in the organization. -/
def createUser (user : User) : Except StoreError Site :=
  if ∃ u ∈ site.users, u.orgId = user.orgId ∧ u.email = user.email then .error .conflict
  else if ¬ ∃ o ∈ site.organizations, o.id = user.orgId then .error .foreignKeyViolation
  else .ok { site with users := site.users ++ [user] }

/-- `UserRepository.GetByEmail`: the first of the rows the server finds. -/
def getByEmail (rank : UUID → Nat) (email : String) : Except StoreError User :=
  match (arrange (rank ·.id) (site.users.filter (·.email = email))).head? with
  | some user => .ok user
  | none => .error .notFound

end Site

/-! ## The handlers -/

/-- `registerRequest`. -/
structure RegisterRequest where
  orgName : String
  orgSlug : String
  email : String
  name : String
  password : String

/-- `loginRequest`. -/
structure LoginRequest where
  email : String
  password : String

/-- What the handlers are constructed with. -/
structure AuthHandler (Token : Type) where
  bcrypt : Bcrypt
  jwt : Jwt Token
  demoAuth : Bool
  /-- `%q`. -/
  quote : String → String

/-- The response: `authResponse`, or an error. -/
inductive AuthResponse (Token : Type) where
  | session (status : Nat) (token : Token) (user : User)
  | failed (response : ApiResponse)

/-- `len(r.Password) < 8` and the other checks of `validateRegister`. -/
def validateRegister (req : RegisterRequest) : List (String × String) :=
  (if req.orgName = "" then [("org_name", "required")] else []) ++
  (if validSlug req.orgSlug = false then
    [("org_slug", "must be lowercase alphanumeric with hyphens")] else []) ++
  (if req.email = "" then [("email", "required")] else []) ++
  (if req.name = "" then [("name", "required")] else []) ++
  (if req.password.utf8ByteSize < 8 then [("password", "minimum 8 characters")] else [])

/-- What a registration draws: the time of the server, the identifiers and the salt. -/
structure RegisterDraw where
  now : Timestamptz
  orgId : UUID
  userId : UUID
  salt : Nat

namespace AuthHandler

variable {Token : Type} (h : AuthHandler Token)

/-- The row of a new user. -/
def newUser (draw : RegisterDraw) (req : RegisterRequest) (hash : String) : User where
  id := draw.userId
  orgId := draw.orgId
  email := req.email
  name := req.name
  role := "admin"
  passwordHash := hash
  createdAt := draw.now
  updatedAt := draw.now

/-- The transaction of `Register`: an organization, and its first user. -/
def insertAccount (draw : RegisterDraw) (req : RegisterRequest) (hash : String) (site : Site) :
    Except ApiResponse Site :=
  match site.createOrg draw.now draw.orgId req.orgName req.orgSlug with
  | .error e => .error (.failure "" (slugText "org" req.orgSlug) e)
  | .ok founded =>
      match founded.createUser (newUser draw req hash) with
      | .error e => .error (.failure "" ("user email " ++ h.quote req.email ++ ": ") e)
      | .ok done => .ok done

/-- `GenerateToken`, and the response with the token. -/
def openSession (status : Nat) (user : User) : AuthResponse Token :=
  match h.jwt.generateToken user.claims with
  | none => .failed .internal
  | some token => .session status token user

/-- `AuthHandler.Register`. -/
def register (draw : RegisterDraw) (body : Body RegisterRequest) (site : Site) :
    AuthResponse Token × Site :=
  match body with
  | .error message => (.failed (.invalid message []), site)
  | .ok req =>
      match validateRegister req with
      | [] =>
          match h.bcrypt.hashPassword draw.salt req.password with
          | none => (.failed .internal, site)
          | some hash =>
              match h.insertAccount draw req hash site with
              | .error response => (.failed response, site)
              | .ok done => (h.openSession 201 (newUser draw req hash), done)
      | errors => (.failed (.invalid "invalid input" errors), site)

/-- `resolveDemoUser`, with `demoFallbackEmail`. -/
def resolveDemoUser (rank : UUID → Nat) (site : Site) (email : String) : Except StoreError User :=
  match site.getByEmail rank email with
  | .ok user => .ok user
  | .error _ => site.getByEmail rank "admin@demo.com"

/-- `AuthHandler.Login`. -/
def login (rank : UUID → Nat) (site : Site) (body : Body LoginRequest) :
    AuthResponse Token :=
  match body with
  | .error message => .failed (.invalid message [])
  | .ok req =>
      if req.email = "" ∨ req.password = "" then
        .failed (.invalid "email and password required" [])
      else if h.demoAuth then
        match resolveDemoUser rank site req.email with
        | .error _ => .failed ⟨503, .error "demo login requires seeded data — run make seed"
            "UNAVAILABLE" []⟩
        | .ok user => h.openSession 200 user
      else
        match site.getByEmail rank req.email with
        | .error _ => .failed ⟨401, .error "invalid credentials" "UNAUTHORIZED" []⟩
        | .ok user =>
            if h.bcrypt.checkPassword user.passwordHash req.password then h.openSession 200 user
            else .failed ⟨401, .error "invalid credentials" "UNAUTHORIZED" []⟩

/-! ## What the handlers do -/

variable {h} {site site' : Site} {draw : RegisterDraw}

theorem openSession_eq (h : AuthHandler Token) (status : Nat) (user : User) :
    ∃ token, h.openSession status user = .session status token user ∧
      h.jwt.validateToken token = some user.claims := by
  obtain ⟨token, signed, valid⟩ := h.jwt.signs user.claims
  exact ⟨token, by rw [openSession, signed], valid⟩

/-- The identifiers that `uuid.New` draws occur nowhere in the tables. -/
def Fresh (draw : RegisterDraw) (site : Site) : Prop :=
  (∀ u ∈ site.users, u.id ≠ draw.userId ∧ u.orgId ≠ draw.orgId) ∧
    ∀ o ∈ site.organizations, o.id ≠ draw.orgId

instance (draw : RegisterDraw) (site : Site) : Decidable (Fresh draw site) :=
  inferInstanceAs (Decidable (_ ∧ _))

/-- The request passes the checks, its password can be hashed, and its slug is free. -/
def Accepts (h : AuthHandler Token) (draw : RegisterDraw) (body : Body RegisterRequest) (site : Site)
    (req : RegisterRequest) (hash : String) : Prop :=
  body = .ok req ∧ validateRegister req = [] ∧
    h.bcrypt.hashPassword draw.salt req.password = some hash ∧
    ¬ ∃ o ∈ site.organizations, o.slug = req.orgSlug

/-- The tables with the organization and the user of a request. -/
def withAccount (draw : RegisterDraw) (req : RegisterRequest) (hash : String) (site : Site) :
    Site :=
  { site with
    organizations := site.organizations ++
      [⟨draw.orgId, req.orgName, req.orgSlug, draw.now, draw.now⟩]
    users := site.users ++ [newUser draw req hash] }

theorem insertAccount_eq (fresh : Fresh draw site) (req : RegisterRequest) (hash : String) :
    h.insertAccount draw req hash site =
      if ∃ o ∈ site.organizations, o.slug = req.orgSlug then
        .error (.failure "" (slugText "org" req.orgSlug) .conflict)
      else .ok (withAccount draw req hash site) := by
  have unused : ¬ ∃ u ∈ site.users, u.orgId = draw.orgId ∧ u.email = req.email := by
    rintro ⟨u, member, same, _⟩
    exact (fresh.1 u member).2 same
  unfold insertAccount
  rw [Site.createOrg_eq]
  by_cases taken : ∃ o ∈ site.organizations, o.slug = req.orgSlug
  · simp only [if_pos taken]
  · simp only [if_neg taken]
    have founded : ∃ o ∈ site.organizations ++
        [(⟨draw.orgId, req.orgName, req.orgSlug, draw.now, draw.now⟩ : Organization)],
        o.id = (newUser draw req hash).orgId :=
      ⟨_, List.mem_append_right _ List.mem_cons_self, rfl⟩
    have creates : Site.createUser { site with
        organizations := site.organizations ++
          [⟨draw.orgId, req.orgName, req.orgSlug, draw.now, draw.now⟩] } (newUser draw req hash) =
        .ok (withAccount draw req hash site) :=
      (if_neg unused).trans (if_neg (not_not.mpr founded))
    rw [creates]

/-- A registration is accepted and creates the account, or changes nothing. -/
theorem register_cases (fresh : Fresh draw site) (body : Body RegisterRequest) :
    (∃ req hash token, h.Accepts draw body site req hash ∧
      h.register draw body site = (.session 201 token (newUser draw req hash),
        withAccount draw req hash site)) ∨
    (∀ req hash, ¬ h.Accepts draw body site req hash) ∧
      ∃ response, h.register draw body site = (.failed response, site) := by
  unfold register
  cases body with
  | error message =>
      refine .inr ⟨?_, _, rfl⟩
      rintro _ _ ⟨⟨⟩, _⟩
  | ok req =>
      simp only
      split
      next valid =>
        split
        next unhashed =>
          refine .inr ⟨?_, _, rfl⟩
          rintro _ hash ⟨⟨⟩, _, hashes, _⟩
          rw [unhashed] at hashes
          cases hashes
        next hash hashes =>
          rw [insertAccount_eq fresh]
          by_cases taken : ∃ o ∈ site.organizations, o.slug = req.orgSlug
          · rw [if_pos taken]
            refine .inr ⟨?_, _, rfl⟩
            rintro _ _ ⟨⟨⟩, _, _, free⟩
            exact free taken
          · rw [if_neg taken]
            obtain ⟨token, opens, _⟩ := h.openSession_eq 201 (newUser draw req hash)
            exact .inl ⟨req, hash, token, ⟨rfl, valid, hashes, taken⟩, by simp only [opens]⟩
      next invalid =>
        refine .inr ⟨?_, _, rfl⟩
        rintro _ _ ⟨⟨⟩, valid, _⟩
        exact invalid valid

/-- A login with real authentication: the first row with the email decides. -/
theorem login_eq (real : h.demoAuth = false) {email password : String} (given : email ≠ "")
    (typed : password ≠ "") {rank : UUID → Nat} {user : User}
    (first : (arrange (rank ·.id) (site.users.filter (·.email = email))).head? = some user) :
    h.login rank site (.ok ⟨email, password⟩) =
      if h.bcrypt.checkPassword user.passwordHash password then h.openSession 200 user
      else .failed ⟨401, .error "invalid credentials" "UNAUTHORIZED" []⟩ := by
  simp [login, Site.getByEmail, given, typed, real, first]

/-- **Logins are authentic.** A login that succeeds is for a user with the email of the request,
whose hash verifies the password, and the token carries his claims. -/
theorem login_authentic (real : h.demoAuth = false) {rank : UUID → Nat} {req : LoginRequest}
    {status : Nat} {token : Token} {user : User}
    (succeeds : h.login rank site (.ok req) = .session status token user) :
    user ∈ site.users ∧ user.email = req.email ∧
      h.bcrypt.checkPassword user.passwordHash req.password = true ∧
      h.jwt.validateToken token = some user.claims := by
  unfold login Site.getByEmail at succeeds
  simp only [real, Bool.false_eq_true, if_false] at succeeds
  split at succeeds
  · cases succeeds
  · split at succeeds
    · cases succeeds
    next found getsUser =>
      split at getsUser
      next first chosen =>
        cases getsUser
        have selected := List.mem_filter.mp (mem_of_head?_arrange chosen)
        split at succeeds
        next verifies =>
          obtain ⟨issued, opens, valid⟩ := h.openSession_eq 200 found
          rw [opens] at succeeds
          cases succeeds
          exact ⟨selected.1, of_decide_eq_true selected.2, verifies, valid⟩
        · cases succeeds
      · cases getsUser

/-! ## Registrations, one after the other -/

end AuthHandler

/-- The tables, with the users of the registrations that were answered with `201` and the
passwords they registered with. -/
structure Registry where
  site : Site
  accounts : List (User × String)

/-- A `POST /auth/register`. -/
structure RegisterCall where
  draw : RegisterDraw
  body : Body RegisterRequest

/-- The account that a response tells of. -/
def RegisterCall.account {Token : Type} (call : RegisterCall) (response : AuthResponse Token) :
    List (User × String) :=
  match call.body, response with
  | .ok req, .session _ _ user => [(user, req.password)]
  | _, _ => []

namespace AuthHandler

variable {Token : Type} (h : AuthHandler Token)

/-- Any tables, and any requests on them. -/
def registrations : System Registry RegisterCall where
  initial r := r.accounts = []
  step r call :=
    if Fresh call.draw r.site then
      let done := h.register call.draw call.body r.site
      some ⟨done.2, call.account done.1 ++ r.accounts⟩
    else none

/-- Whatever row comes first, a login with the email and the password of the account succeeds, with
a token for its user and organization. -/
def LogsIn (site : Site) (account : User × String) : Prop :=
  ∀ rank : UUID → Nat, ∃ token user claims,
    h.login rank site (.ok ⟨account.1.email, account.2⟩) = .session 200 token user ∧
      h.jwt.validateToken token = some claims ∧
      claims.userId = account.1.id ∧ claims.orgId = account.1.orgId

/-- A request that is accepted brings an email that no user of the table has. -/
def NewEmail (r : Registry) (call : RegisterCall) : Prop :=
  ∀ req hash, h.Accepts call.draw call.body r.site req hash →
    ∀ u ∈ r.site.users, u.email ≠ req.email

/-- Each account has a row, the only one with its email, and the hash of its password. -/
def Distinct (r : Registry) : Prop :=
  ∀ account ∈ r.accounts, account.1 ∈ r.site.users ∧
    (∀ u ∈ r.site.users, u.email = account.1.email → u = account.1) ∧
    account.1.email ≠ "" ∧ account.2 ≠ "" ∧
    h.bcrypt.checkPassword account.1.passwordHash account.2 = true

variable {h} {r r' : Registry} {call : RegisterCall}

/-- A step creates one account, or changes nothing. -/
theorem registrations_step (taken : h.registrations.step r call = some r') :
    Fresh call.draw r.site ∧
      ((∃ req hash, h.Accepts call.draw call.body r.site req hash ∧
        r' = ⟨withAccount call.draw req hash r.site,
          (newUser call.draw req hash, req.password) :: r.accounts⟩) ∨
      (∀ req hash, ¬ h.Accepts call.draw call.body r.site req hash) ∧ r' = r) := by
  simp only [registrations] at taken
  split at taken
  next fresh =>
    refine ⟨fresh, ?_⟩
    rcases register_cases fresh call.body with ⟨req, hash, token, accepts, done⟩ |
      ⟨rejects, response, done⟩
    · rw [done] at taken
      simp only [RegisterCall.account, accepts.1, Option.some.injEq] at taken
      exact .inl ⟨req, hash, accepts, taken.symm⟩
    · rw [done] at taken
      have nothing : call.account (.failed response : AuthResponse Token) = [] := by
        unfold RegisterCall.account
        split <;> simp_all
      simp only [nothing, List.nil_append, Option.some.injEq] at taken
      exact .inr ⟨rejects, taken.symm⟩
  · cases taken

theorem registrations_of_accepts {req : RegisterRequest} {hash : String}
    (fresh : Fresh call.draw r.site) (accepts : h.Accepts call.draw call.body r.site req hash) :
    h.registrations.step r call =
      some ⟨withAccount call.draw req hash r.site,
        (newUser call.draw req hash, req.password) :: r.accounts⟩ := by
  rcases register_cases fresh call.body with ⟨req', hash', token, accepts', done⟩ | ⟨rejects, _⟩
  · cases accepts.1.symm.trans accepts'.1
    cases accepts.2.2.1.symm.trans accepts'.2.2.1
    simp only [registrations, if_pos fresh, done]
    simp only [RegisterCall.account, accepts.1]
    rfl
  · exact absurd accepts (rejects req hash)

/-- A valid request has an email and a password. -/
theorem validateRegister_filled {req : RegisterRequest} (valid : validateRegister req = []) :
    req.email ≠ "" ∧ req.password ≠ "" := by
  unfold validateRegister at valid
  simp only [List.append_eq_nil_iff] at valid
  refine ⟨fun empty => ?_, fun empty => ?_⟩
  · simp [empty] at valid
  · simp [empty] at valid

theorem distinct_step (taken : h.registrations.step r call = some r') (new : h.NewEmail r call)
    (distinct : h.Distinct r) : h.Distinct r' := by
  obtain ⟨fresh, ⟨req, hash, accepts, rfl⟩ | ⟨_, rfl⟩⟩ := registrations_step taken
  · have unused := new req hash accepts
    obtain ⟨_, valid, hashes, _⟩ := accepts
    intro account member
    rcases List.mem_cons.mp member with rfl | earlier
    · refine ⟨List.mem_append_right _ List.mem_cons_self, ?_, (validateRegister_filled valid).1,
        (validateRegister_filled valid).2, h.bcrypt.verifies _ _ _ hashes⟩
      intro u row same
      rcases List.mem_append.mp row with old | last
      · exact absurd same (unused u old)
      · exact List.mem_singleton.mp last
    · obtain ⟨row, only, rest⟩ := distinct account earlier
      refine ⟨List.mem_append_left _ row, ?_, rest⟩
      intro u row' same
      rcases List.mem_append.mp row' with old | last
      · exact only u old same
      · rw [List.mem_singleton.mp last] at same
        exact absurd same.symm (unused account.1 row)
  · exact distinct

/-- The only row with an email comes first. -/
theorem logsIn_of_distinct (real : h.demoAuth = false) (distinct : h.Distinct r) :
    ∀ account ∈ r.accounts, h.LogsIn r.site account := by
  intro account member rank
  obtain ⟨row, only, given, typed, verifies⟩ := distinct account member
  have listed : account.1 ∈ r.site.users.filter (·.email = account.1.email) :=
    List.mem_filter.mpr ⟨row, decide_eq_true rfl⟩
  obtain ⟨first, selected, order⟩ := exists_head?_arrange (fun u : User => rank u.id) listed
  obtain ⟨row', same⟩ := List.mem_filter.mp selected
  have found : first = account.1 := only first row' (of_decide_eq_true same)
  rw [found] at order
  obtain ⟨token, opens, valid⟩ := h.openSession_eq 200 account.1
  refine ⟨token, account.1, account.1.claims, ?_, valid, rfl, rfl⟩
  rw [login_eq real given typed order, if_pos verifies, opens]

/-- An accepted request with an email of the table makes a user who does not always log in. -/
theorem newEmail_of_logsIn (real : h.demoAuth = false)
    (taken : h.registrations.step r call = some r')
    (logIn : ∀ account ∈ r'.accounts, h.LogsIn r'.site account) : h.NewEmail r call := by
  obtain ⟨fresh, ⟨req, hash, accepts, rfl⟩ | ⟨rejects, _⟩⟩ := registrations_step taken
  · intro req' hash' accepts' u row same
    cases accepts.1.symm.trans accepts'.1
    have listed : u ∈ (r.site.users ++ [newUser call.draw req hash]).filter (·.email = req.email) :=
      List.mem_filter.mpr ⟨List.mem_append_left _ row, decide_eq_true same⟩
    obtain ⟨rank, first, order, chosen⟩ := exists_rank_head? User.id listed
    obtain ⟨token, user, claims, succeeds, valid, userId, _⟩ :=
      logIn (newUser call.draw req hash, req.password) List.mem_cons_self rank
    have filled := validateRegister_filled accepts.2.1
    rw [show (newUser call.draw req hash).email = req.email from rfl,
      login_eq real filled.1 filled.2 order] at succeeds
    split at succeeds
    · obtain ⟨token', opens, valid'⟩ := h.openSession_eq 200 first
      rw [opens] at succeeds
      cases succeeds
      cases valid.symm.trans valid'
      exact (fresh.1 u row).1 (chosen.symm.trans userId)
    · cases succeeds
  · intro req hash accepts
    exact absurd accepts (rejects req hash)

end AuthHandler

/-- **When every registered user can log in as himself.** With real authentication, every user of
a sequence of registrations can log in at every moment of it, whatever row comes first, exactly
when no accepted request brings an email that the table has already. A login that succeeds is
always for a user with the email and the password of the request. -/
theorem registered_log_in_iff {Token : Type} {h : AuthHandler Token} (real : h.demoAuth = false)
    {trace : List (Registry × RegisterCall)} {last : Registry}
    (run : Run h.registrations trace last) :
    (Throughout (fun r => ∀ account ∈ r.accounts, h.LogsIn r.site account) trace last ↔
      Meets h.NewEmail trace) ∧
    ∀ (site : Site) (rank : UUID → Nat) (req : LoginRequest) (status : Nat) (token : Token)
      (user : User), h.login rank site (.ok req) = .session status token user →
        user ∈ site.users ∧ user.email = req.email ∧
          h.bcrypt.checkPassword user.passwordHash req.password = true ∧
          h.jwt.validateToken token = some user.claims := by
  refine ⟨?_, fun site rank req status token user => AuthHandler.login_authentic real⟩
  refine run.throughout_iff_meets (fun _ _ => True) h.Distinct (fun _ _ => trivial) ?_ ?_ ?_ ?_
  · intro r start account member
    rw [show r.accounts = [] from start] at member
    cases member
  · intro r call r' taken _ new distinct
    exact AuthHandler.distinct_step taken new distinct
  · intro r distinct
    exact AuthHandler.logsIn_of_distinct real distinct
  · intro r call r' taken _ _ logIn
    exact AuthHandler.newEmail_of_logsIn real taken logIn

/-! ## One email in two organizations -/

/-- Hashes that show the password, for passwords of the length that `bcrypt` takes. -/
def plainBcrypt : Bcrypt where
  hashPassword _ password :=
    if password.utf8ByteSize ≤ 72 then some ("$2a$10$" ++ password) else none
  checkPassword hash password := password.utf8ByteSize ≤ 72 ∧ hash = "$2a$10$" ++ password
  verifies _ password hash made := by
    obtain ⟨short, same⟩ := Option.ite_none_right_eq_some.mp made
    exact decide_eq_true ⟨short, (Option.some.inj same).symm⟩
  rejects hash := by
    -- one letter or another
    by_cases first : hash = "$2a$10$" ++ "a"
    · subst first
      exact ⟨"b", by decide, by decide⟩
    · exact ⟨"a", by decide, decide_eq_false fun verifies => first verifies.2⟩

/-- Tokens that are the claims themselves. -/
def plainHandler : AuthHandler Claims where
  bcrypt := plainBcrypt
  jwt := ⟨some, some, fun claims => ⟨claims, rfl, rfl⟩⟩
  demoAuth := false
  quote text := "\"" ++ text ++ "\""

/-- Empty tables. -/
def Registry.start : Registry := ⟨⟨[], [], [], [], [], [], [], [], [], [], []⟩, []⟩

/-- Somebody registers as the admin of a new organization. -/
def founder (id : UUID) (slug password : String) : RegisterRequest × RegisterCall :=
  let req : RegisterRequest := ⟨"Organization", slug, "ada@example.com", "Ada", password⟩
  (req, ⟨⟨0, id, id, 0⟩, .ok req⟩)

/-- The registry after the first of them. -/
def oneFounder : Registry :=
  ⟨AuthHandler.withAccount ⟨0, 1, 1, 0⟩ (founder 1 "acme" "password-1").1 "$2a$10$password-1"
    Registry.start.site, [(AuthHandler.newUser ⟨0, 1, 1, 0⟩ (founder 1 "acme" "password-1").1
      "$2a$10$password-1", "password-1")]⟩

theorem founder_accepted {site : Site} {id : UUID} {slug password : String}
    (accepted : validateRegister (founder id slug password).1 = [])
    (short : password.utf8ByteSize ≤ 72)
    (free : ¬ ∃ o ∈ site.organizations, o.slug = slug) :
    plainHandler.Accepts (founder id slug password).2.draw (founder id slug password).2.body site
      (founder id slug password).1 ("$2a$10$" ++ password) :=
  ⟨rfl, accepted, if_pos short, free⟩

theorem oneFounder_step :
    plainHandler.registrations.step .start (founder 1 "acme" "password-1").2 =
      some oneFounder := by
  have slug : validSlug "acme" = true := by
    rw [validSlug_eq]
    decide
  have valid : validateRegister (founder 1 "acme" "password-1").1 = [] := by
    simp only [validateRegister, founder, slug]
    decide
  exact AuthHandler.registrations_of_accepts (by decide)
    (founder_accepted valid (by decide) (by decide))

theorem registered_log_in_alone :
    ∃ trace last, Run plainHandler.registrations trace last ∧ last.accounts ≠ [] ∧
      Throughout (fun r => ∀ account ∈ r.accounts, plainHandler.LogsIn r.site account) trace
        last := by
  have start : plainHandler.registrations.initial .start := rfl
  have run := (Run.start start).next _ oneFounder_step
  refine ⟨_, _, run, List.cons_ne_nil _ _, (registered_log_in_iff rfl run).1.mpr ?_⟩
  rw [meets_cons]
  refine ⟨?_, meets_nil⟩
  intro _ _ _ u member
  cases member

/-- A second organization registers the same email, and its admin may be logged in as the other
one, or not at all. -/
theorem shared_email_locks_out :
    ¬ ∀ (h : AuthHandler Claims), h.demoAuth = false →
      ∀ (trace : List (Registry × RegisterCall)) (last : Registry),
        Run h.registrations trace last → ∀ account ∈ last.accounts, h.LogsIn last.site account := by
  intro always
  have slug : validSlug "umbrella" = true := by
    rw [validSlug_eq]
    decide
  have valid : validateRegister (founder 2 "umbrella" "password-2").1 = [] := by
    simp only [validateRegister, founder, slug]
    decide
  have accepts : plainHandler.Accepts (founder 2 "umbrella" "password-2").2.draw
      (founder 2 "umbrella" "password-2").2.body oneFounder.site
      (founder 2 "umbrella" "password-2").1 ("$2a$10$" ++ "password-2") :=
    founder_accepted valid (by decide) (by decide)
  have fresh : AuthHandler.Fresh (founder 2 "umbrella" "password-2").2.draw oneFounder.site := by
    decide
  have step := AuthHandler.registrations_of_accepts fresh accepts
  have start : plainHandler.registrations.initial .start := rfl
  have run := ((Run.start start).next _ oneFounder_step).next _ step
  have new := AuthHandler.newEmail_of_logsIn rfl step (always _ rfl _ _ run)
  exact new _ _ accepts _ List.mem_cons_self rfl

end JobScheduler
