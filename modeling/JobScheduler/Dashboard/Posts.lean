import JobScheduler.Dashboard.Payloads
import JobScheduler.Transition.Run

/-!
# Idempotent submission to the dashboard

`POST queues/{id}/jobs` looks up the queue, then the key, and then inserts the job: three statements
of their own, between which other requests for the same key may run, and worker ticks. The lookup is
skipped when the key is falsy, which of all strings the empty one is, while the `INSERT` leaves only
`null` out of the index. The statements of one request, run on their own, are the handler of the
router (`advance_createJob`).

Requests are answered with the one job that has the key exactly as long as no `INSERT` meets a row
with the key, and the rest of each request is acceptable (`posts_idempotent_iff`).
-/

set_option autoImplicit false

namespace JobScheduler

open Relational Transition

namespace Dashboard

/-! ## Statements -/

/-- A string as the server reads it: a text has no zero character. -/
def textParameter (text : String) : Value String :=
  if Char.ofNat 0 ∈ text.toList then .error "invalid byte sequence for encoding \"UTF8\": 0x00"
  else .ok (some text)

/-- The next statement of a request, with the row of the queue once it is read. -/
inductive PostPoint where
  | queueLookup
  | keyLookup (queue : Queue)
  | insertion (queue : Queue)
  | answered (response : Response)

/-- A request under way. -/
structure Post where
  fields : Fields
  point : PostPoint

section Statements

variable (env : Env) (orgId : UUID) (site : Site)

/-- The `SELECT` of the queue, and the test of the key after it. -/
def lookUpQueue (id : String) (fields : Fields) : PostPoint :=
  match env.parseUuid id with
  | .error message => .answered (.caught message)
  | .ok queueId =>
      match site.queues.find? fun q => q.id = queueId ∧ site.QueueOf orgId q with
      | none => .answered (.failed "not found" 404)
      | some queue => if fields.keyed then .keyLookup queue else .insertion queue

/-- The `SELECT` of the job that has the key. -/
def lookUpKey (queue : Queue) (fields : Fields) : PostPoint :=
  match fields.idempotencyKey with
  | .error message => .answered (.caught message)
  | .ok key =>
      match existingJob site queue.id fields.keyed key with
      | none => .insertion queue
      | some existing => .answered
          (attempt site (mapJob env.parseJson existing) fun job => (⟨200, .job job⟩, site)).1

/-- The `INSERT`. -/
def insertPost (queue : Queue) (fields : Fields) : Response × Site :=
  attempt site fields.idempotencyKey fun key =>
  attempt site fields.priority fun priority =>
  attempt site (required "jobs" "payload" fields.payload) fun payload =>
  attempt site fields.maxAttempts fun maxAttempts =>
  attempt site fields.delay fun delay =>
  attempt site fields.cronExpr fun cronExpr =>
    let job := insertedJob env queue.id (priority.getD queue.priorityDefault) payload
      key (maxAttempts.getD 3) (env.now + delay.getD 0) cronExpr
    match insertJob site job with
    | .error e => (.caught (env.describe e), site)
    | .ok site' => attempt site' (mapJob env.parseJson job) fun job => (⟨201, .job job⟩, site')

/-- The next statement of a request. -/
def Post.advance (id : String) (post : Post) : PostPoint × Site :=
  match post.point with
  | .queueLookup => (lookUpQueue env orgId site id post.fields, site)
  | .keyLookup queue => (lookUpKey env site queue post.fields, site)
  | .insertion queue =>
      let done := insertPost env site queue post.fields
      (.answered done.1, done.2)
  | .answered response => (.answered response, site)

/-- The next statements of a request that runs on its own. -/
def Post.advances (id : String) : Nat → Site → Post → Post × Site
  | 0, site, post => (post, site)
  | n + 1, site, post =>
      let next := post.advance env orgId site id
      advances id n next.2 { post with point := next.1 }

variable {env orgId site} {id : String} {queueId : UUID} {queue : Queue}

/-- The handler once the queue is found: without a key, too, the rest is a lookup that finds nothing
and the `INSERT`. -/
theorem createJob_found (fields : Fields) (parsed : env.parseUuid id = .ok queueId)
    (found : (site.queues.find? fun q => q.id = queueId ∧ site.QueueOf orgId q) = some queue) :
    createJob env orgId site id (.ok (some fields)) =
      match lookUpKey env site queue fields with
      | .answered response => (response, site)
      | _ => insertPost env site queue fields := by
  have key : queue.id = queueId := by
    have matched := List.find?_some found
    rw [decide_eq_true_eq] at matched
    exact matched.1
  unfold createJob lookUpKey insertPost
  simp only [attempt, members, parsed, found, key]
  cases fields.idempotencyKey with
  | error message => rfl
  | ok text =>
      dsimp only
      cases existingJob site queueId fields.keyed text with
      | none => rfl
      | some existing =>
          dsimp only
          cases mapJob env.parseJson existing <;> rfl

/-- The lookup of the key ends the request or leads to the `INSERT`. -/
theorem lookUpKey_cases (fields : Fields) :
    (∃ response, lookUpKey env site queue fields = .answered response) ∨
      lookUpKey env site queue fields = .insertion queue := by
  unfold lookUpKey
  split
  next message _ => exact .inl ⟨_, rfl⟩
  · split
    · exact .inr rfl
    · exact .inl ⟨_, rfl⟩

theorem lookUpKey_unkeyed {fields : Fields} (unkeyed : fields.keyed = false) :
    (∃ message, fields.idempotencyKey = .error message ∧
      lookUpKey env site queue fields = .answered (.caught message)) ∨
    lookUpKey env site queue fields = .insertion queue := by
  unfold lookUpKey existingJob
  simp only [unkeyed]
  cases fields.idempotencyKey with
  | error message => exact .inl ⟨message, rfl, rfl⟩
  | ok key => exact .inr rfl

variable (env orgId site)

theorem advances_answered (fields : Fields) (response : Response) (n : Nat) :
    Post.advances env orgId id n site ⟨fields, .answered response⟩ =
      (⟨fields, .answered response⟩, site) := by
  induction n with
  | zero => rfl
  | succ n ih => exact ih

/-- **A request on its own is the handler.** -/
theorem advance_createJob (id : String) (fields : Fields) :
    Post.advances env orgId id 3 site ⟨fields, .queueLookup⟩ =
      (⟨fields, .answered (createJob env orgId site id (.ok (some fields))).1⟩,
        (createJob env orgId site id (.ok (some fields))).2) := by
  have looked : Post.advances env orgId id 3 site ⟨fields, .queueLookup⟩ =
      Post.advances env orgId id 2 site ⟨fields, lookUpQueue env orgId site id fields⟩ := rfl
  rw [looked]
  cases parsed : env.parseUuid id with
  | error message =>
      unfold lookUpQueue createJob
      simp only [parsed]
      exact advances_answered env orgId site fields _ 2
  | ok queueId =>
      cases found : site.queues.find? fun q => q.id = queueId ∧ site.QueueOf orgId q with
      | none =>
          unfold lookUpQueue createJob
          simp only [parsed, found, attempt]
          exact advances_answered env orgId site fields _ 2
      | some queue =>
          rw [createJob_found fields parsed found]
          unfold lookUpQueue
          simp only [parsed, found]
          have inserts : ∀ n, Post.advances env orgId id (n + 1) site ⟨fields, .insertion queue⟩ =
              (⟨fields, .answered (insertPost env site queue fields).1⟩,
                (insertPost env site queue fields).2) :=
            fun n => advances_answered env orgId _ fields _ n
          split
          · have keyed : Post.advances env orgId id 2 site ⟨fields, .keyLookup queue⟩ =
                Post.advances env orgId id 1 site ⟨fields, lookUpKey env site queue fields⟩ := rfl
            rw [keyed]
            rcases lookUpKey_cases fields with ⟨response, looks⟩ | looks
            · rw [looks]
              exact advances_answered env orgId site fields response 1
            · rw [looks]
              exact inserts 0
          next unkeyed =>
            rw [inserts 1]
            rcases lookUpKey_unkeyed (Bool.not_eq_true _ ▸ unkeyed) with
              ⟨message, wrong, looks⟩ | looks
            · rw [looks]
              simp only [insertPost, wrong, attempt]
            · rw [looks]

end Statements

/-! ## Requests with one key -/

/-- The body of a request with this key. -/
def Fields.withKey (key : String) (fields : Fields) : Fields :=
  { fields with idempotencyKey := textParameter key, keyed := key ≠ "" }

/-- A row after a worker tick: none writes the key, the queue or the payload. -/
def worked (work : Job → Job) (job : Job) : Job :=
  { work job with
    id := job.id
    queueId := job.queueId
    idempotencyKey := job.idempotencyKey
    payload := job.payload }

/-- The jobs of a queue that have a key. -/
def keyedJobs (queueId : UUID) (key : String) (site : Site) : List Job :=
  site.jobs.filter fun j => j.queueId = queueId ∧ j.idempotencyKey = some key

/-- The tables, and the requests that have come in for one key of one queue. -/
structure Posts where
  site : Site
  posts : List Post

inductive PostAction where
  | arrive (fields : Fields)
  /-- A request runs its next statement, with the identifier drawn and the time. -/
  | advance (index : Nat) (fresh : UUID) (now : Timestamptz)
  | tick (work : Job → Job)

def PostPoint.ended : PostPoint → Bool
  | .answered _ => true
  | _ => false

/-- The statements that are left of a request, at most. -/
def PostPoint.remaining : PostPoint → Nat
  | .queueLookup => 3
  | .keyLookup _ => 2
  | .insertion _ => 1
  | .answered _ => 0

/-- What a statement meets that runs now. -/
def Env.during (env : Env) (fresh : UUID) (now : Timestamptz) : Env :=
  { env with fresh := fresh, now := now }

section System

variable (env : Env) (orgId : UUID) (id : String) (queueId : UUID) (key : String)

def Posts.step (s : Posts) : PostAction → Option Posts
  | .arrive fields => some { s with posts := s.posts ++ [⟨fields.withKey key, .queueLookup⟩] }
  | .advance index fresh now =>
      match s.posts[index]? with
      | none => none
      | some post =>
          if post.point.ended then none
          else
            let next := post.advance (env.during fresh now) orgId s.site id
            some ⟨next.2, s.posts.set index { post with point := next.1 }⟩
  | .tick work => some { s with site := { s.site with jobs := s.site.jobs.map (worked work) } }

/-- Requests with the key for a queue of the organization. The index holds at the start. -/
def posting : System Posts PostAction where
  initial s := s.posts = [] ∧ (keyedJobs queueId key s.site).length ≤ 1 ∧
    ∃ queue, (s.site.queues.find? fun q => q.id = queueId ∧ s.site.QueueOf orgId q) = some queue
  step := Posts.step env orgId id key

/-- One job has the key, and the response is that job, created or found. -/
def Answers (site : Site) (response : Response) : Prop :=
  ∃ row job, keyedJobs queueId key site = [row] ∧
    (response = ⟨201, .job job⟩ ∨ response = ⟨200, .job job⟩) ∧ job.id = row.id

/-- Every response so far is the one job that has the key. -/
def Posts.Idempotent (s : Posts) : Prop :=
  ∀ post ∈ s.posts, ∀ response, post.point = .answered response →
    Answers queueId key s.site response

/-- The columns of the request have values, in range, and the payload can be read back. -/
def Fields.Acceptable (queue : Queue) (fields : Fields) : Prop :=
  ∃ priority payload maxAttempts delay cronExpr,
    fields.priority = .ok priority ∧ fields.payload = .ok (some payload) ∧
    fields.maxAttempts = .ok maxAttempts ∧ fields.delay = .ok delay ∧
    fields.cronExpr = .ok cronExpr ∧ InInt4 (priority.getD queue.priorityDefault) ∧
    InInt4 (maxAttempts.getD 3) ∧ Readable env payload

/-- The key is a text. A lookup that finds a row finds one it can read; an `INSERT` finds no row
with the key, and its columns are acceptable. -/
def Posts.Admits (s : Posts) : PostAction → Prop
  | .advance index _ _ => ∀ post ∈ s.posts[index]?,
      (∀ queue, post.point = .keyLookup queue → Char.ofNat 0 ∉ key.toList ∧
        ∀ row ∈ keyedJobs queueId key s.site, Readable env row.payload) ∧
      ∀ queue, post.point = .insertion queue → Char.ofNat 0 ∉ key.toList ∧
        keyedJobs queueId key s.site = [] ∧ post.fields.Acceptable env queue
  | _ => True

end System

/-! ## What a statement does -/

section Rows

variable {env : Env} {site : Site} {queueId : UUID} {key : String}

theorem textParameter_of_text (text : Char.ofNat 0 ∉ key.toList) :
    textParameter key = .ok (some key) := if_neg text

theorem mem_keyedJobs {job : Job} : job ∈ keyedJobs queueId key site ↔
    job ∈ site.jobs ∧ job.queueId = queueId ∧ job.idempotencyKey = some key := by
  simp only [keyedJobs, List.mem_filter, decide_eq_true_eq]

/-- The `INSERT` of a job with the key fails when a row has it. -/
theorem insertJob_keyed {job : Job} (ofQueue : job.queueId = queueId)
    (keyed : job.idempotencyKey = some key) :
    insertJob site job =
      if ¬ (InInt4 job.priority ∧ InInt4 job.maxAttempts) then .error .numericOutOfRange
      else if keyedJobs queueId key site = [] then .ok { site with jobs := site.jobs ++ [job] }
      else .error .uniqueViolation := by
  have taken : (∃ j ∈ site.jobs, j.queueId = job.queueId ∧ j.idempotencyKey.isSome ∧
      j.idempotencyKey = job.idempotencyKey) ↔ ¬ keyedJobs queueId key site = [] := by
    rw [List.eq_nil_iff_forall_not_mem, not_forall_not, ofQueue, keyed]
    simp only [mem_keyedJobs]
    refine exists_congr fun j => and_congr_right fun _ => and_congr_right fun _ => ?_
    constructor
    · exact And.right
    · intro same
      rw [same]
      exact ⟨rfl, rfl⟩
  unfold insertJob
  simp only [taken, ite_not]

theorem keyedJobs_append {job : Job} (ofQueue : job.queueId = queueId)
    (keyed : job.idempotencyKey = some key) :
    keyedJobs queueId key { site with jobs := site.jobs ++ [job] } =
      keyedJobs queueId key site ++ [job] := by
  unfold keyedJobs
  rw [List.filter_append, List.filter_singleton, decide_eq_true ⟨ofQueue, keyed⟩]
  rfl

theorem keyedJobs_worked (work : Job → Job) :
    keyedJobs queueId key { site with jobs := site.jobs.map (worked work) } =
      (keyedJobs queueId key site).map (worked work) := by
  unfold keyedJobs
  rw [List.filter_map]
  rfl

end Rows

/-- The key of a request is this one. -/
def Carries (key : String) (fields : Fields) : Prop :=
  fields.idempotencyKey = textParameter key ∧ fields.keyed = decide (key ≠ "")

section Lookup

variable {env : Env} {site : Site} {queueId : UUID} {key : String} {queue : Queue}
  {fields : Fields}

theorem existingJob_eq_head? (given : key ≠ "") (keyed : fields.keyed = decide (key ≠ "")) :
    existingJob site queueId fields.keyed (some key) = (keyedJobs queueId key site).head? := by
  unfold existingJob keyedJobs
  rw [keyed, decide_eq_true given, List.head?_filter]
  rfl

/-- A lookup of a text that can read what it finds leads to the `INSERT` when no row has the key,
and answers with the row when one does. -/
theorem lookUpKey_admitted (carries : Carries key fields) (same : queue.id = queueId)
    (given : key ≠ "") (text : Char.ofNat 0 ∉ key.toList)
    (unique : (keyedJobs queueId key site).length ≤ 1)
    (readable : ∀ row ∈ keyedJobs queueId key site, Readable env row.payload) :
    lookUpKey env site queue fields = .insertion queue ∨
      ∃ response, lookUpKey env site queue fields = .answered response ∧
        Answers queueId key site response := by
  unfold lookUpKey
  simp only [carries.1, textParameter_of_text text, same,
    existingJob_eq_head? given carries.2]
  cases rows : keyedJobs queueId key site with
  | nil => exact .inl rfl
  | cons row rest =>
      rw [rows] at unique readable
      have single : rest = [] := List.eq_nil_of_length_eq_zero (Nat.le_zero.mp
        (Nat.le_of_succ_le_succ unique))
      rcases mapJob_cases env row with ⟨_, mapped, maps, sameId⟩ | ⟨unreadable, _⟩
      · refine .inr ⟨⟨200, .job mapped⟩, ?_, row, mapped, ?_, .inr rfl, sameId⟩
        · simp only [List.head?_cons, maps, attempt]
        · rw [rows, single]
      · exact absurd (readable row List.mem_cons_self) unreadable

/-- Any other lookup throws. -/
theorem lookUpKey_refused (carries : Carries key fields) (same : queue.id = queueId)
    (given : key ≠ "") (unique : (keyedJobs queueId key site).length ≤ 1)
    (refused : ¬ (Char.ofNat 0 ∉ key.toList ∧
      ∀ row ∈ keyedJobs queueId key site, Readable env row.payload)) :
    ∃ message, lookUpKey env site queue fields = .answered (.caught message) := by
  unfold lookUpKey
  by_cases text : Char.ofNat 0 ∈ key.toList
  · rw [carries.1, textParameter, if_pos text]
    exact ⟨_, rfl⟩
  · simp only [carries.1, textParameter_of_text text, same,
      existingJob_eq_head? given carries.2]
    have some_unreadable : ∃ row ∈ keyedJobs queueId key site, ¬ Readable env row.payload := by
      by_contra all
      refine refused ⟨text, fun row member => ?_⟩
      by_contra unreadable
      exact all ⟨row, member, unreadable⟩
    obtain ⟨row, member, unreadable⟩ := some_unreadable
    obtain ⟨only, rows⟩ := List.length_eq_one_iff.mp
      (le_antisymm unique (List.length_pos_of_mem member))
    rw [rows, List.mem_singleton] at member
    rcases mapJob_cases env only with ⟨readable, _⟩ | ⟨_, message, throws⟩
    · rw [← member] at readable
      exact absurd readable unreadable
    · refine ⟨message, ?_⟩
      simp only [rows, List.head?_cons, throws, attempt]

end Lookup

section Insertion

variable {env : Env} {site : Site} {queueId : UUID} {key : String} {queue : Queue}
  {fields : Fields}

/-- A statement of a request that does not throw has a value. -/
theorem goesOn {α : Type} {result : Except String α} {next : α → Response × Site}
    (answers : ¬ ∃ message, (attempt site result next).1 = .caught message) :
    ∃ value, result = .ok value ∧ ¬ ∃ message, (next value).1 = .caught message := by
  cases result with
  | error message => exact absurd ⟨message, rfl⟩ answers
  | ok value => exact ⟨value, rfl, answers⟩

/-- An `INSERT` of a text that no row has, with acceptable columns, answers with the new row. -/
theorem insertPost_admitted (carries : Carries key fields) (same : queue.id = queueId)
    (text : Char.ofNat 0 ∉ key.toList) (absent : keyedJobs queueId key site = [])
    (acceptable : fields.Acceptable env queue) :
    ∃ job mapped, insertPost env site queue fields =
        (⟨201, .job mapped⟩, { site with jobs := site.jobs ++ [job] }) ∧
      job.queueId = queueId ∧ job.idempotencyKey = some key ∧ mapped.id = job.id := by
  obtain ⟨priority, payload, maxAttempts, delay, cronExpr, hasPriority, hasPayload, hasMax,
    hasDelay, hasCron, inRange, maxInRange, readable⟩ := acceptable
  let job := insertedJob env queue.id (priority.getD queue.priorityDefault) payload (some key)
    (maxAttempts.getD 3) (env.now + delay.getD 0) cronExpr
  have inserts : insertJob site job = .ok { site with jobs := site.jobs ++ [job] } := by
    have row : insertJob site job = _ := insertJob_keyed same rfl
    rw [if_neg (not_not.mpr ⟨inRange, maxInRange⟩), if_pos absent] at row
    exact row
  rcases mapJob_cases env job with ⟨_, mapped, maps, sameId⟩ | ⟨unreadable, _⟩
  · refine ⟨job, mapped, ?_, same, rfl, sameId⟩
    unfold insertPost
    simp only [carries.1, textParameter_of_text text, hasPriority, hasPayload, required, hasMax,
      hasDelay, hasCron, attempt]
    simp only [job] at inserts maps
    rw [inserts]
    dsimp only
    rw [maps]
  · exact absurd readable unreadable

/-- Any other `INSERT` throws, or its response does. -/
theorem insertPost_refused (carries : Carries key fields) (same : queue.id = queueId)
    (refused : ¬ (Char.ofNat 0 ∉ key.toList ∧ keyedJobs queueId key site = [] ∧
      fields.Acceptable env queue)) :
    ∃ message, (insertPost env site queue fields).1 = .caught message := by
  by_contra answers
  apply refused
  unfold insertPost at answers
  obtain ⟨given, hasKey, answers⟩ := goesOn answers
  obtain ⟨priority, hasPriority, answers⟩ := goesOn answers
  obtain ⟨payload, hasPayload, answers⟩ := goesOn answers
  obtain ⟨maxAttempts, hasMax, answers⟩ := goesOn answers
  obtain ⟨delay, hasDelay, answers⟩ := goesOn answers
  obtain ⟨cronExpr, hasCron, answers⟩ := goesOn answers
  rw [carries.1] at hasKey
  have text : Char.ofNat 0 ∉ key.toList := by
    intro zero
    rw [textParameter, if_pos zero] at hasKey
    cases hasKey
  rw [textParameter_of_text text] at hasKey
  cases hasKey
  dsimp only at answers
  rw [insertJob_keyed same rfl] at answers
  split at answers
  · exact absurd ⟨_, rfl⟩ answers
  next inserts =>
    obtain ⟨mapped, maps, _⟩ := goesOn answers
    split at inserts
    · cases inserts
    next inRange =>
      split at inserts
      next absent =>
        refine ⟨text, absent, priority, payload, maxAttempts, delay, cronExpr, hasPriority,
          required_eq_ok hasPayload, hasMax, hasDelay, hasCron, (not_not.mp inRange).1,
          (not_not.mp inRange).2, ?_⟩
        rcases mapJob_cases env (insertedJob env queue.id (priority.getD queue.priorityDefault)
          payload (some key) (maxAttempts.getD 3) (env.now + delay.getD 0) cronExpr) with
          ⟨readable, _⟩ | ⟨_, message, throws⟩
        · exact readable
        · rw [maps] at throws
          cases throws
      · cases inserts

end Insertion

/-! ## Runs -/

section Runs

variable {env : Env} {orgId : UUID} {id : String} {queueId : UUID} {key : String}

theorem posts_step_cases {s s' : Posts} {a : PostAction}
    (taken : s.step env orgId id key a = some s') :
    (∃ fields, a = .arrive fields ∧
      s' = { s with posts := s.posts ++ [⟨fields.withKey key, .queueLookup⟩] }) ∨
    (∃ index fresh now post next, a = .advance index fresh now ∧ s.posts[index]? = some post ∧
      next = post.advance (env.during fresh now) orgId s.site id ∧
      s' = ⟨next.2, s.posts.set index { post with point := next.1 }⟩) ∨
    ∃ work, a = .tick work ∧
      s' = { s with site := { s.site with jobs := s.site.jobs.map (worked work) } } := by
  cases a with
  | arrive fields =>
      cases taken
      exact .inl ⟨fields, rfl, rfl⟩
  | advance index fresh now =>
      simp only [Posts.step] at taken
      split at taken
      · cases taken
      next post found =>
        split at taken
        · cases taken
        · cases taken
          exact .inr (.inl ⟨index, fresh, now, post, _, rfl, found, rfl, rfl⟩)
  | tick work =>
      cases taken
      exact .inr (.inr ⟨work, rfl, rfl⟩)

/-- How far a request with the key has come: the queue is the one asked for, and only a key that
is not empty is looked up. -/
def PostPoint.Reached (queueId : UUID) (key : String) : PostPoint → Prop
  | .keyLookup queue => key ≠ "" ∧ queue.id = queueId
  | .insertion queue => queue.id = queueId
  | _ => True

variable (orgId queueId key)

/-- The invariant of runs in which every step is admitted. -/
structure Posts.Consistent (s : Posts) : Prop where
  unique : (keyedJobs queueId key s.site).length ≤ 1
  found : ∃ queue,
    (s.site.queues.find? fun q => q.id = queueId ∧ s.site.QueueOf orgId q) = some queue
  requests : ∀ post ∈ s.posts, Carries key post.fields ∧ post.point.Reached queueId key
  idempotent : s.Idempotent queueId key

variable {orgId queueId key}

theorem Answers.rows {site : Site} {response : Response}
    (answers : Answers queueId key site response) : keyedJobs queueId key site ≠ [] := by
  obtain ⟨row, _, rows, _⟩ := answers
  rw [rows]
  exact List.cons_ne_nil _ _

theorem Answers.worked {site : Site} {response : Response}
    (answers : Answers queueId key site response) (work : Job → Job) :
    Answers queueId key { site with jobs := site.jobs.map (Dashboard.worked work) } response := by
  obtain ⟨row, job, rows, answer, sameId⟩ := answers
  refine ⟨Dashboard.worked work row, job, ?_, answer, sameId⟩
  rw [keyedJobs_worked, rows]
  rfl

theorem not_answers_caught {site : Site} {message : String} :
    ¬ Answers queueId key site (.caught message) := by
  rintro ⟨_, _, _, created | found, _⟩
  · exact caught_ne (by decide) created
  · exact caught_ne (by decide) found

namespace Posts.Consistent

variable {s : Posts} {index : Nat} {post : Post} {site : Site} {point : PostPoint}

/-- A request moves on, and the responses so far are still right. -/
theorem put (before : s.Consistent orgId queueId key) (taken : s.posts[index]? = some post)
    (unique : (keyedJobs queueId key site).length ≤ 1)
    (found : ∃ queue,
      (site.queues.find? fun q => q.id = queueId ∧ site.QueueOf orgId q) = some queue)
    (reached : point.Reached queueId key)
    (keeps : ∀ response, Answers queueId key s.site response → Answers queueId key site response)
    (answers : ∀ response, point = .answered response → Answers queueId key site response) :
    Posts.Consistent orgId queueId key ⟨site, s.posts.set index { post with point := point }⟩ := by
  refine ⟨unique, found, ?_, ?_⟩
  · intro other member
    rcases List.mem_or_eq_of_mem_set member with earlier | rfl
    · exact before.requests other earlier
    · exact ⟨(before.requests post (List.mem_of_getElem? taken)).1, reached⟩
  · intro other member response answered
    rcases List.mem_or_eq_of_mem_set member with earlier | rfl
    · exact keeps response (before.idempotent other earlier response answered)
    · exact answers response answered

theorem arrive (before : s.Consistent orgId queueId key) (fields : Fields) :
    Posts.Consistent orgId queueId key
      { s with posts := s.posts ++ [⟨fields.withKey key, .queueLookup⟩] } := by
  refine ⟨before.unique, before.found, ?_, ?_⟩
  · intro post member
    rcases List.mem_append.mp member with earlier | new
    · exact before.requests post earlier
    · rw [List.mem_singleton] at new
      subst new
      exact ⟨⟨rfl, rfl⟩, trivial⟩
  · intro post member response answered
    rcases List.mem_append.mp member with earlier | new
    · exact before.idempotent post earlier response answered
    · rw [List.mem_singleton] at new
      subst new
      cases answered

theorem tick (before : s.Consistent orgId queueId key) (work : Job → Job) :
    Posts.Consistent orgId queueId key
      { s with site := { s.site with jobs := s.site.jobs.map (worked work) } } := by
  refine ⟨?_, before.found, before.requests, ?_⟩
  · rw [keyedJobs_worked, List.length_map]
    exact before.unique
  · intro post member response answered
    exact (before.idempotent post member response answered).worked work

end Posts.Consistent

/-- The lookup of the queue finds it. -/
theorem lookUpQueue_reached {site : Site} {fields : Fields}
    (parsed : env.parseUuid id = .ok queueId)
    (found : ∃ queue,
      (site.queues.find? fun q => q.id = queueId ∧ site.QueueOf orgId q) = some queue)
    (carries : Carries key fields) :
    (lookUpQueue env orgId site id fields).Reached queueId key ∧
      ∀ response, lookUpQueue env orgId site id fields ≠ .answered response := by
  obtain ⟨queue, found⟩ := found
  have matched := List.find?_some found
  rw [decide_eq_true_eq] at matched
  unfold lookUpQueue
  simp only [parsed, found, carries.2]
  split
  next keyed =>
    rw [decide_eq_true_eq] at keyed
    refine ⟨⟨keyed, matched.1⟩, ?_⟩
    rintro _ ⟨⟩
  · refine ⟨matched.1, ?_⟩
    rintro _ ⟨⟩

section Advance

variable {s : Posts} {index : Nat} {post : Post} (fresh : UUID) (now : Timestamptz)

theorem advance_consistent {next : PostPoint × Site}
    (advances : next = post.advance env orgId s.site id)
    (parsed : env.parseUuid id = .ok queueId) (before : s.Consistent orgId queueId key)
    (taken : s.posts[index]? = some post)
    (admits : s.Admits env queueId key (.advance index fresh now)) :
    Posts.Consistent orgId queueId key
      ⟨next.2, s.posts.set index { post with point := next.1 }⟩ := by
  obtain ⟨carries, reached⟩ := before.requests post (List.mem_of_getElem? taken)
  obtain ⟨looksUp, inserts⟩ := admits post taken
  unfold Post.advance at advances
  split at advances
  next point =>
    subst advances
    obtain ⟨leads, unanswered⟩ := lookUpQueue_reached parsed before.found carries
    exact before.put taken before.unique before.found leads (fun _ same => same)
      fun response answered => absurd answered (unanswered response)
  next queue point =>
    subst advances
    obtain ⟨text, readable⟩ := looksUp queue point
    rw [point] at reached
    rcases lookUpKey_admitted carries reached.2 reached.1 text before.unique readable with
      leads | ⟨response, leads, answers⟩
    · rw [leads]
      refine before.put taken before.unique before.found reached.2 (fun _ same => same) ?_
      rintro response ⟨⟩
    · rw [leads]
      refine before.put taken before.unique before.found trivial (fun _ same => same) ?_
      rintro other ⟨⟩
      exact answers
  next queue point =>
    obtain ⟨text, absent, acceptable⟩ := inserts queue point
    rw [point] at reached
    obtain ⟨job, mapped, inserted, ofQueue, keyed, sameId⟩ :=
      insertPost_admitted carries reached text absent acceptable
    rw [inserted] at advances
    subst advances
    have rows : keyedJobs queueId key { s.site with jobs := s.site.jobs ++ [job] } = [job] := by
      rw [keyedJobs_append ofQueue keyed, absent]
      rfl
    refine before.put taken (by rw [rows]; exact le_refl 1) before.found trivial ?_ ?_
    · -- no request has been answered yet
      exact fun response answers => absurd absent answers.rows
    · rintro response ⟨⟩
      exact ⟨job, mapped, rows, .inl rfl, sameId⟩
  next response point =>
    subst advances
    exact before.put taken before.unique before.found trivial (fun _ same => same)
      fun other answered => before.idempotent post (List.mem_of_getElem? taken) other
        (point.trans answered)

theorem advance_admits {next : PostPoint × Site}
    (advances : next = post.advance env orgId s.site id)
    (before : s.Consistent orgId queueId key) (taken : s.posts[index]? = some post)
    (after : Posts.Idempotent queueId key
      ⟨next.2, s.posts.set index { post with point := next.1 }⟩) :
    s.Admits env queueId key (.advance index fresh now) := by
  obtain ⟨carries, reached⟩ := before.requests post (List.mem_of_getElem? taken)
  have inside : index < s.posts.length := (List.getElem?_eq_some_iff.mp taken).1
  have moved : { post with point := next.1 } ∈ s.posts.set index { post with point := next.1 } :=
    List.mem_of_getElem? (List.getElem?_set_self inside)
  have uncaught : ∀ message, next.1 ≠ .answered (.caught message) :=
    fun message answered => not_answers_caught (after _ moved _ answered)
  intro other found
  cases taken.symm.trans found
  refine ⟨?_, ?_⟩
  · intro queue point
    rw [point] at reached
    by_contra refused
    obtain ⟨message, throws⟩ := lookUpKey_refused carries reached.2 reached.1 before.unique refused
    refine uncaught message ?_
    rw [advances, Post.advance, point]
    exact throws
  · intro queue point
    rw [point] at reached
    by_contra refused
    obtain ⟨message, throws⟩ := insertPost_refused carries reached refused
    refine uncaught message ?_
    rw [advances, Post.advance, point]
    exact congrArg PostPoint.answered throws

/-- A statement brings a request nearer to its response. -/
theorem advance_remaining (site : Site) (unanswered : post.point.ended = false) :
    (post.advance env orgId site id).1.remaining < post.point.remaining := by
  unfold Post.advance
  cases point : post.point with
  | queueLookup =>
      dsimp only
      unfold lookUpQueue
      split
      · exact Nat.zero_lt_succ 2
      · split
        · exact Nat.zero_lt_succ 2
        · split
          · exact Nat.lt_succ_self 2
          · exact Nat.lt_of_succ_lt (Nat.lt_succ_self 2)
  | keyLookup queue =>
      dsimp only
      unfold lookUpKey
      split
      · exact Nat.zero_lt_succ 1
      · split
        · exact Nat.lt_succ_self 1
        · exact Nat.zero_lt_succ 1
  | insertion queue => exact Nat.zero_lt_one
  | answered response =>
      rw [point] at unanswered
      cases unanswered

end Advance

end Runs

/-! ## The empty key -/

/-- A request for the first queue that inserts an empty object. -/
def emptyObject : Fields := payloadOnly (.object [])

/-- The queue of the first organization. -/
def firstQueue : Queue := ⟨100, 10, "queue", "queue", none, 0, none, false, 0, 0⟩

theorem emptyObject_acceptable {queue : Queue} (inRange : InInt4 queue.priorityDefault) :
    emptyObject.Acceptable parsingEnv queue := by
  refine ⟨none, .object [], none, none, none, rfl, rfl, rfl, rfl, rfl, inRange, by decide, ?_⟩
  rintro text ⟨⟩

/-- One request with this key, and how far it has come. -/
def onePost (key : String) (point : PostPoint) : Posts :=
  ⟨twoOrganizations, [⟨emptyObject.withKey key, point⟩]⟩

end Dashboard

end JobScheduler
