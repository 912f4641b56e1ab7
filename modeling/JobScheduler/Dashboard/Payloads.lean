import JobScheduler.Dashboard.Integrity

/-!
# Payloads of the dashboard

A payload is written as `JSON.stringify(body.payload)::jsonb` and comes back from the driver as a
JavaScript value. `mapJob` looks at the type of that value and parses a string once more, as if it
were the text of the column. A string comes back as what it denotes, or makes the handler throw. Of
the other payloads those come back that are not altered on the way into the column, by the doubles
of JavaScript, or refused there (`payload_returned_iff`).
-/

set_option autoImplicit false

namespace JobScheduler

open Relational

/-- A JSON string. -/
def Json.IsString : Json → Prop
  | .string _ => True
  | _ => False

instance : DecidablePred Json.IsString
  | .string _ => isTrue trivial
  | .null | .bool _ | .number _ _ | .array _ | .object _ => isFalse not_false

namespace Dashboard

/-- What `JSON.parse` makes a string of is written between quotation marks, with at least one
character for each of the string. -/
def QuotesStrings (parseJson : String → Except String Json) : Prop :=
  ∀ text value, parseJson text = .ok (.string value) → value.length + 2 ≤ text.length

/-- The value is no string, and loses nothing in a column. -/
def JsonText.Kept (value : JsonText) : Prop := ¬ value.IsString ∧ value.lossless = true

instance : DecidablePred JsonText.Kept :=
  fun _ => inferInstanceAs (Decidable (_ ∧ _))

/-- A job is shown with this payload. -/
def Shows (value : JsonText) (job shown : Job) : Prop :=
  ∃ payload, shown = { job with payload := payload } ∧ SameValue payload value

/-- A payload that `mapJob` reads back. -/
def Readable (env : Env) (payload : Json) : Prop :=
  ∀ text, payload = .string text → ∃ value, env.parseJson text = .ok value

/-! ## Strings -/

theorem jsNumber_not_string (mantissa exponent : Int) :
    ¬ (jsNumber mantissa exponent).IsString := by
  unfold jsNumber
  dsimp only
  split <;> exact not_false

theorem isString_driverValue {value : Json} : (driverValue value).IsString ↔ value.IsString := by
  cases value with
  | number mantissa exponent =>
      rw [driverValue]
      exact iff_of_false (jsNumber_not_string mantissa exponent) not_false
  | null | bool | string => simp only [driverValue]
  | array | object => rw [driverValue]; exact Iff.rfl

theorem isString_stored {value : JsonText} {column : Json} (stores : value.stored = .ok column) :
    column.IsString ↔ value.IsString := by
  cases value with
  | null | bool =>
      rw [JsonText.stored] at stores
      rw [← Except.ok.inj stores]
      exact Iff.rfl
  | number mantissa exponent =>
      rw [JsonText.stored] at stores
      rw [← Except.ok.inj stores]
      exact iff_of_false (jsNumber_not_string mantissa exponent) not_false
  | string units =>
      rw [JsonText.stored] at stores
      cases text : storedString units <;> rw [text] at stores <;> cases stores
      exact Iff.rfl
  | array items =>
      rw [JsonText.stored] at stores
      cases columns : JsonText.storedItems items <;> rw [columns] at stores <;> cases stores
      exact Iff.rfl
  | object members =>
      rw [JsonText.stored] at stores
      cases fields : JsonText.storedMembers members <;> rw [fields] at stores <;> cases stores
      exact Iff.rfl

/-! ## Rows -/

section Rows

variable {parseJson : String → Except String Json}

theorem mapJob_of_string {job : Job} {text : String} (payload : job.payload = .string text) :
    mapJob parseJson job = (parseJson text).map fun value => { job with payload := value } := by
  simp only [mapJob, payload, driverValue]

theorem mapJob_of_not_string {job : Job} (other : ¬ job.payload.IsString) :
    mapJob parseJson job = .ok { job with payload := driverValue job.payload } := by
  unfold mapJob
  split
  next text payload =>
    have string : (driverValue job.payload).IsString := by
      rw [payload]
      trivial
    exact absurd (isString_driverValue.mp string) other
  · rfl

/-- `mapJob` shows a row with the payload that was sent exactly when the payload is kept. -/
theorem mapJob_shows_iff (quotes : QuotesStrings parseJson) {job : Job} {value : JsonText}
    (stores : value.stored = .ok job.payload) :
    (∃ shown, mapJob parseJson job = .ok shown ∧ Shows value job shown) ↔ value.Kept := by
  by_cases string : value.IsString
  · refine iff_of_false ?_ fun kept => kept.1 string
    rintro ⟨shown, maps, payload, rfl, same⟩
    cases value with
    | string units =>
        rw [JsonText.stored] at stores
        cases text : storedString units with
        | error message =>
            rw [text] at stores
            cases stores
        | ok column =>
            rw [text] at stores
            have row : job.payload = .string column := (Except.ok.inj stores).symm
            rw [mapJob_of_string row] at maps
            cases parsed : parseJson column with
            | error message =>
                rw [parsed] at maps
                cases maps
            | ok parsedValue =>
                rw [parsed] at maps
                have shows : parsedValue = payload :=
                  congrArg Job.payload (Except.ok.inj maps)
                subst shows
                cases parsedValue with
                | string inner =>
                    -- a text is longer than the string it denotes
                    have own := (encodes_of_stored text).2
                    rw [SameValue] at same
                    rw [← same.2, own] at parsed
                    have longer := quotes column column parsed
                    omega
                | null | bool | number | array | object => simp only [SameValue] at same
    | null | bool | number | array | object => exact string
  · have other : ¬ job.payload.IsString := fun column => string ((isString_stored stores).mp column)
    rw [mapJob_of_not_string other, JsonText.Kept, ← same_iff_lossless stores]
    constructor
    · rintro ⟨shown, maps, payload, rfl, same⟩
      have shows : driverValue job.payload = payload :=
        congrArg Job.payload (Except.ok.inj maps)
      rw [shows]
      exact ⟨string, same⟩
    · rintro ⟨_, same⟩
      exact ⟨_, rfl, _, rfl, same⟩

theorem mapJob_eq_ok {job row : Job} (maps : mapJob parseJson job = .ok row) :
    ∃ payload, row = { job with payload := payload } := by
  by_cases string : job.payload.IsString
  · cases payload : job.payload with
    | string text =>
        rw [mapJob_of_string payload] at maps
        cases parsed : parseJson text with
        | error message =>
            rw [parsed] at maps
            cases maps
        | ok value =>
            rw [parsed] at maps
            cases maps
            exact ⟨value, rfl⟩
    | null | bool | number | array | object =>
        rw [payload] at string
        exact absurd string not_false
  · rw [mapJob_of_not_string string] at maps
    cases maps
    exact ⟨_, rfl⟩

/-- What `mapJob` does with a row: it shows the job, or throws on a string. -/
theorem mapJob_cases (env : Env) (job : Job) :
    (Readable env job.payload ∧ ∃ mapped, mapJob env.parseJson job = .ok mapped ∧
      mapped.id = job.id) ∨
    (¬ Readable env job.payload ∧ ∃ message, mapJob env.parseJson job = .error message) := by
  by_cases string : job.payload.IsString
  · cases payload : job.payload with
    | string text =>
        rw [mapJob_of_string payload]
        cases parsed : env.parseJson text with
        | error message =>
            refine .inr ⟨?_, message, rfl⟩
            intro readable
            obtain ⟨value, parses⟩ := readable text rfl
            rw [parsed] at parses
            cases parses
        | ok value =>
            refine .inl ⟨?_, _, rfl, rfl⟩
            rintro _ ⟨⟩
            exact ⟨value, parsed⟩
    | null | bool | number | array | object =>
        rw [payload] at string
        exact absurd string not_false
  · refine .inl ⟨?_, _, mapJob_of_not_string string, rfl⟩
    intro text payload
    rw [payload] at string
    exact absurd trivial string

theorem mapJob_ok_iff {env : Env} {job : Job} :
    (∃ row, mapJob env.parseJson job = .ok row) ↔ Readable env job.payload := by
  rcases mapJob_cases env job with ⟨readable, row, maps, _⟩ | ⟨unreadable, message, throws⟩
  · exact iff_of_true ⟨row, maps⟩ readable
  · refine iff_of_false ?_ unreadable
    rintro ⟨row, maps⟩
    rw [throws] at maps
    cases maps

theorem mapJobs_cons_eq_ok {job : Job} {rest shown : List Job} :
    mapJobs parseJson (job :: rest) = .ok shown ↔
      ∃ first others, shown = first :: others ∧ mapJob parseJson job = .ok first ∧
        mapJobs parseJson rest = .ok others := by
  rw [mapJobs]
  cases mapJob parseJson job with
  | error message => simp
  | ok first =>
      cases mapJobs parseJson rest with
      | error message => simp [Except.map]
      | ok others => simp [Except.map, eq_comm]

/-- A list is shown when `mapJob` throws on none of its rows. -/
theorem mapJobs_ok_iff {jobs : List Job} :
    (∃ shown, mapJobs parseJson jobs = .ok shown) ↔
      ∀ job ∈ jobs, ∃ row, mapJob parseJson job = .ok row := by
  induction jobs with
  | nil => exact iff_of_true ⟨[], rfl⟩ (List.forall_mem_nil _)
  | cons job rest ih =>
      rw [List.forall_mem_cons, ← ih]
      simp only [mapJobs_cons_eq_ok]
      constructor
      · rintro ⟨_, first, others, rfl, here, later⟩
        exact ⟨⟨first, here⟩, others, later⟩
      · rintro ⟨⟨first, here⟩, others, later⟩
        exact ⟨_, first, others, rfl, here, later⟩

theorem mem_mapJobs {jobs shown : List Job} (maps : mapJobs parseJson jobs = .ok shown)
    {row : Job} : row ∈ shown ↔ ∃ job ∈ jobs, mapJob parseJson job = .ok row := by
  induction jobs generalizing shown with
  | nil =>
      cases maps
      simp
  | cons job rest ih =>
      obtain ⟨first, others, rfl, here, later⟩ := mapJobs_cons_eq_ok.mp maps
      simp [ih later, here, eq_comm]

/-- A list shows one of its rows with the payload that was sent exactly when the payload is kept and
`mapJob` throws on none of its rows. -/
theorem mapJobs_shows_iff {env : Env} (quotes : QuotesStrings env.parseJson) {jobs : List Job}
    (unique : (jobs.map (·.id)).Nodup) {job : Job} (member : job ∈ jobs) {value : JsonText}
    (stores : value.stored = .ok job.payload) :
    (∃ shown, mapJobs env.parseJson jobs = .ok shown ∧ ∃ row ∈ shown, Shows value job row) ↔
      value.Kept ∧ ∀ row ∈ jobs, Readable env row.payload := by
  have list : (∃ shown, mapJobs env.parseJson jobs = .ok shown) ↔
      ∀ row ∈ jobs, Readable env row.payload := by
    simp only [mapJobs_ok_iff, mapJob_ok_iff]
  rw [← mapJob_shows_iff quotes stores, ← list]
  constructor
  · rintro ⟨shown, maps, row, listed, shows⟩
    obtain ⟨source, sourceMember, mapsRow⟩ := (mem_mapJobs maps).mp listed
    -- a row comes from the row with its identifier
    have same : source = job := by
      obtain ⟨_, fromSource⟩ := mapJob_eq_ok mapsRow
      obtain ⟨_, fromJob, _⟩ := shows
      have sourceId : row.id = source.id := by rw [fromSource]
      have jobId : row.id = job.id := by rw [fromJob]
      exact eq_of_key_eq unique sourceMember member (sourceId.symm.trans jobId)
    rw [same] at mapsRow
    exact ⟨⟨row, mapsRow, shows⟩, shown, maps⟩
  · rintro ⟨⟨row, mapsRow, shows⟩, shown, maps⟩
    exact ⟨shown, maps, row, (mem_mapJobs maps).mpr ⟨job, member, mapsRow⟩, shows⟩

end Rows

/-! ## Responses -/

section Responses

variable {α : Type} {site : Site}

theorem caught_ne {message : String} {status : Nat} {content : Content} (success : status < 400) :
    Response.caught message ≠ ⟨status, content⟩ := by
  unfold Response.caught
  split
  · rintro ⟨⟩
    omega
  · rintro ⟨⟩
    omega

/-- A response is the one for a value exactly when the handler has gone on with that value. -/
theorem attempt_respond_iff {result : Except String α} {value : α} {status : Nat}
    {content : α → Content} (success : status < 400) (inject : Function.Injective content) :
    (attempt site result fun found => (⟨status, content found⟩, site)).1 =
        ⟨status, content value⟩ ↔ result = .ok value := by
  cases result with
  | error message =>
      refine iff_of_false (caught_ne success) ?_
      rintro ⟨⟩
  | ok found =>
      constructor
      · intro same
        exact congrArg Except.ok (inject (congrArg Response.content same))
      · rintro ⟨⟩
        rfl

theorem attempt_site (result : Except String α) (respond : α → Response) :
    (attempt site result fun value => (respond value, site)).2 = site := by
  cases result <;> rfl

theorem required_eq_ok {relation column : String} {value : Value α} {found : α}
    (given : required relation column value = .ok found) : value = .ok (some found) := by
  unfold required at given
  split at given
  · cases given
  · cases given
  · cases given
    rfl

/-- A handler that succeeds has got all its values. -/
theorem attempt_eq_respond {result : Except String α} {next : α → Response × Site} {status : Nat}
    {content : Content} (success : status < 400)
    (answered : (attempt site result next).1 = ⟨status, content⟩) :
    ∃ value, result = .ok value ∧ (next value).1 = ⟨status, content⟩ := by
  cases result with
  | error message => exact absurd answered (caught_ne success)
  | ok value => exact ⟨value, rfl, answered⟩

end Responses

/-! ## Submitting -/

/-- The request with this payload. -/
def Fields.withPayload (fields : Fields) (text : JsonText) : Fields :=
  { fields with payloadText := some text }

section Submitting

variable {env : Env} {orgId : UUID} {site : Site}

theorem required_withPayload (fields : Fields) (text : JsonText) :
    required "jobs" "payload" (fields.withPayload text).payload = text.resolved.stored := by
  unfold required Fields.payload Fields.withPayload
  dsimp only
  cases text.resolved.stored <;> rfl

/-- No constraint is about the payload. -/
theorem insertJob_payload {job : Job} {site' : Site} (inserts : insertJob site job = .ok site')
    (payload : Json) : insertJob site { job with payload := payload } =
      .ok { site with jobs := site.jobs ++ [{ job with payload := payload }] } := by
  unfold insertJob at inserts ⊢
  split at inserts
  · cases inserts
  next ranges =>
    split at inserts
    · cases inserts
    next free => rw [if_neg ranges, if_neg free]

/-- What a request inserts beside its payload, and where. -/
structure InsertedColumns where
  queueId : UUID
  queue : Queue
  key : Option String
  priority : Option Int
  maxAttempts : Option Int
  delay : Option Timestamptz
  cronExpr : Option String

/-- The row with this payload. -/
def InsertedColumns.job (env : Env) (columns : InsertedColumns) (payload : Json) : Job :=
  insertedJob env columns.queueId (columns.priority.getD columns.queue.priorityDefault) payload
    columns.key (columns.maxAttempts.getD 3) (env.now + columns.delay.getD 0) columns.cronExpr

/-- The request reaches the `INSERT` with these columns. -/
structure InsertedColumns.Of (env : Env) (orgId : UUID) (site : Site) (id : String)
    (fields : Fields) (columns : InsertedColumns) : Prop where
  queueId : env.parseUuid id = .ok columns.queueId
  queue : (site.queues.find? fun q => q.id = columns.queueId ∧ site.QueueOf orgId q) =
    some columns.queue
  key : fields.idempotencyKey = .ok columns.key
  new : existingJob site columns.queueId fields.keyed columns.key = none
  priority : fields.priority = .ok columns.priority
  maxAttempts : fields.maxAttempts = .ok columns.maxAttempts
  delay : fields.delay = .ok columns.delay
  cronExpr : fields.cronExpr = .ok columns.cronExpr

/-- The rest of such a request. -/
theorem InsertedColumns.Of.createJob {id : String} {fields : Fields} {columns : InsertedColumns}
    (reaches : columns.Of env orgId site id fields) :
    createJob env orgId site id (.ok (some fields)) =
      attempt site (required "jobs" "payload" fields.payload) fun payload =>
        match insertJob site (columns.job env payload) with
        | .error e => (.caught (env.describe e), site)
        | .ok site' =>
            attempt site' (mapJob env.parseJson (columns.job env payload)) fun shown =>
              (⟨201, .job shown⟩, site') := by
  unfold Dashboard.createJob
  simp only [attempt, reaches.queueId, reaches.queue, members, reaches.key, reaches.new,
    reaches.priority, reaches.maxAttempts, reaches.delay, reaches.cronExpr]
  rfl

/-- A request that is answered with a new job has inserted it. -/
theorem columns_of_created {id : String} {fields : Fields} {job : Job}
    (created : (createJob env orgId site id (.ok (some fields))).1 = ⟨201, .job job⟩) :
    ∃ columns : InsertedColumns, columns.Of env orgId site id fields ∧ ∃ payload,
      required "jobs" "payload" fields.payload = .ok payload ∧
        (∃ site', insertJob site (columns.job env payload) = .ok site') ∧
          mapJob env.parseJson (columns.job env payload) = .ok job := by
  unfold createJob at created
  obtain ⟨_, ⟨⟩, created⟩ := attempt_eq_respond (by decide) created
  obtain ⟨queueId, parsed, created⟩ := attempt_eq_respond (by decide) created
  dsimp only at created
  split at created
  · cases created
  next queue found =>
    obtain ⟨_, ⟨⟩, created⟩ := attempt_eq_respond (by decide) created
    obtain ⟨key, keyed, created⟩ := attempt_eq_respond (by decide) created
    split at created
    next existing holds =>
      obtain ⟨shown, _, created⟩ := attempt_eq_respond (by decide) created
      cases created
    next new =>
      obtain ⟨priority, prior, created⟩ := attempt_eq_respond (by decide) created
      obtain ⟨payload, given, created⟩ := attempt_eq_respond (by decide) created
      obtain ⟨maxAttempts, most, created⟩ := attempt_eq_respond (by decide) created
      obtain ⟨delay, delayed, created⟩ := attempt_eq_respond (by decide) created
      obtain ⟨cronExpr, scheduled, created⟩ := attempt_eq_respond (by decide) created
      split at created
      · exact absurd created (caught_ne (by decide))
      next site' inserts =>
        obtain ⟨shown, maps, created⟩ := attempt_eq_respond (by decide) created
        cases created
        exact ⟨⟨queueId, queue, key, priority, maxAttempts, delay, cronExpr⟩,
          ⟨parsed, found, keyed, new, prior, most, delayed, scheduled⟩, payload, given,
          ⟨site', inserts⟩, maps⟩

/-- **A `POST` with one payload or another.** If a request with the payload `{}` is answered with a
new job, then with another payload it stores that, or is answered with the message of the server. -/
theorem createJob_withPayload {id : String} {fields : Fields} {job : Job}
    (accepted : (createJob env orgId site id (.ok (some (fields.withPayload (.object []))))).1 =
      ⟨201, .job job⟩) (text : JsonText) :
    createJob env orgId site id (.ok (some (fields.withPayload text))) =
      attempt site text.resolved.stored fun payload =>
        let site' : Site := { site with jobs := site.jobs ++ [{ job with payload := payload }] }
        attempt site' (mapJob env.parseJson { job with payload := payload }) fun shown =>
          (⟨201, .job shown⟩, site') := by
  obtain ⟨columns, reaches, empty, given, ⟨site', inserts⟩, maps⟩ := columns_of_created accepted
  rw [required_withPayload] at given
  cases given
  cases maps
  have other : columns.Of env orgId site id (fields.withPayload text) :=
    ⟨reaches.queueId, reaches.queue, reaches.key, reaches.new, reaches.priority,
      reaches.maxAttempts, reaches.delay, reaches.cronExpr⟩
  rw [other.createJob, required_withPayload]
  congr 1
  funext payload
  have inserted : insertJob site (columns.job env payload) = _ := insertJob_payload inserts payload
  rw [inserted]
  rfl

end Submitting

/-- The rows of `GET jobs`. -/
def listedJobs (env : Env) (orgId : UUID) (site : Site) (status : String)
    (queueId : Option UUID) : List Job :=
  (orderBy (- ·.createdAt) (env.rank ·.id) (·.id) (site.jobs.filter fun j =>
    site.QueueIdOf orgId j.queueId ∧ (status = "" ∨ j.status.text = status) ∧
      ∀ id ∈ queueId, j.queueId = id)).take 100

theorem nodup_listedJobs {env : Env} {orgId : UUID} {site : Site} {status : String}
    {queueId : Option UUID} (unique : (site.jobs.map (·.id)).Nodup) :
    ((listedJobs env orgId site status queueId).map (·.id)).Nodup := by
  unfold listedJobs
  refine List.Nodup.sublist ((List.take_sublist 100 _).map _) ?_
  exact ((orderBy_perm _ _ _ _).map _).nodup_iff.mpr (nodup_map_filter unique _)

/-- A response shows the job that `mapJob` makes of a row. -/
theorem attempt_shows_iff {env : Env} (quotes : QuotesStrings env.parseJson) (site : Site)
    {job : Job} {value : JsonText} (stores : value.stored = .ok job.payload) {status : Nat}
    (success : status < 400) :
    (∃ shown, (attempt site (mapJob env.parseJson job) fun shown =>
        ((⟨status, .job shown⟩ : Response), site)).1 = ⟨status, .job shown⟩ ∧
          Shows value job shown) ↔ value.Kept := by
  simp only [attempt_respond_iff success fun _ _ => Content.job.inj]
  exact mapJob_shows_iff quotes stores

/-- What a `POST` stores. -/
theorem createJob_jobs {env : Env} {orgId : UUID} {site : Site} {id : String} {fields : Fields}
    {job : Job} (accepted : (createJob env orgId site id
      (.ok (some (fields.withPayload (.object []))))).1 = ⟨201, .job job⟩) {text : JsonText}
    {payload : Json} (stores : text.resolved.stored = .ok payload) :
    (createJob env orgId site id (.ok (some (fields.withPayload text)))).2.jobs =
      site.jobs ++ [{ job with payload := payload }] := by
  rw [createJob_withPayload accepted text, stores]
  exact congrArg Site.jobs
    (attempt_site (mapJob env.parseJson { job with payload := payload }) _)

/-- What a `POST` answers. -/
theorem createJob_shows_iff {env : Env} (quotes : QuotesStrings env.parseJson) {orgId : UUID}
    {site : Site} {id : String} {fields : Fields} {job : Job}
    (accepted : (createJob env orgId site id
      (.ok (some (fields.withPayload (.object []))))).1 = ⟨201, .job job⟩) (text : JsonText) :
    (∃ shown, (createJob env orgId site id (.ok (some (fields.withPayload text)))).1 =
        ⟨201, .job shown⟩ ∧ Shows text.resolved job shown) ↔ text.resolved.Kept := by
  rw [createJob_withPayload accepted text]
  cases stores : text.resolved.stored with
  | error message =>
      refine iff_of_false ?_ ?_
      · rintro ⟨shown, answered, _⟩
        exact caught_ne (by decide) answered
      · intro kept
        obtain ⟨payload, taken⟩ := stored_of_lossless _ kept.2
        rw [stores] at taken
        cases taken
  | ok payload =>
      exact @attempt_shows_iff env quotes _ { job with payload := payload } _ stores _ (by decide)

/-- A parser of one text, with the message of the real one for the others that begin like
`abc`. -/
def parseNull (text : String) : Except String Json :=
  if text = "null" then .ok .null
  else .error ("Unexpected token 'a', \"" ++ text ++ "\" is not valid JSON")

theorem parseNull_quotes : QuotesStrings parseNull := by
  intro text value parsed
  unfold parseNull at parsed
  split at parsed
  · cases parsed
  · cases parsed

/-- The dashboard with that parser, and one identifier. -/
def parsingEnv : Env where
  parseUuid text := if text = "100" then .ok 100 else .error "invalid input syntax for type uuid"
  parseJson := parseNull
  describe _ := "constraint violated"
  fresh := 3000
  now := 0
  rank _ := 0
  demoAuth := false
  signToken _ := ""
  tick site := (⟨200, .pulse 0 ""⟩, site)

/-- A `POST` of a job with this payload and nothing else. -/
def payloadOnly (text : JsonText) : Fields where
  email := ""
  password := ""
  projectId := .ok none
  name := .ok none
  slug := .ok none
  description := .ok none
  priorityDefault := .ok none
  concurrencyLimit := .ok none
  idempotencyKey := .ok none
  keyed := false
  delay := .ok none
  priority := .ok none
  payloadText := some text
  maxAttempts := .ok none
  cronExpr := .ok none

/-- The code units of a text in ASCII. -/
def ascii (text : String) : JsString := text.toList.map fun c => UInt16.ofNat c.toNat

/-- `{"type": "sleep", "duration_ms": 200}`. -/
def sleepText : JsonText :=
  .object [(ascii "type", .string (ascii "sleep")), (ascii "duration_ms", .number 200 0)]

end Dashboard

end JobScheduler
