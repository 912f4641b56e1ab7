import JobScheduler.Api.Handlers
import JobScheduler.Relational.Keyset
import JobScheduler.Relational.Ranking
import Mathlib.Data.Prod.Lex
import Mathlib.Logic.Denumerable

/-!
# Paging through a listing

Every listing answers with a `Page`, and a client passes the cursor of a page on for as long as the
page says that there is more. The listings of projects and of queues are keyset listings, in the
order of `(created_at, id)` (`keyset_pagination`). The listings of jobs and of dead letters take
the same cursor parameter and do not read it: they serve a client whose rows fit into one page, with
one place to spare (`limit_pagination_iff`).
-/

set_option autoImplicit false

namespace JobScheduler

open Relational

/-! ## Cursors -/

/-- `encoding/json` and `encoding/base64`, as `EncodeCursor` and `DecodeCursor` use them. -/
structure CursorCodec where
  marshal : Time × UUID → String
  unmarshal : String → Option (Time × UUID)

namespace CursorCodec

variable (codec : CursorCodec)

/-- `EncodeCursor`. -/
def encodeCursor (createdAt : Time) (id : UUID) : String := codec.marshal (createdAt, id)

/-- `DecodeCursor`. The empty text is no cursor. -/
def decodeCursor (text : String) : Param (Time × UUID) :=
  if text = "" then .absent
  else
    match codec.unmarshal text with
    | some cursor => .given cursor
    | none => .malformed

/-- `DecodeCursor` inverts `EncodeCursor` on the instants of the database. -/
def Inverts : Prop :=
  ∀ (createdAt : Timestamptz) (id : UUID),
    codec.decodeCursor (codec.encodeCursor createdAt.toTime id) = .given (createdAt.toTime, id)

/-- The `next_cursor` of a page. -/
def nextCursor : Option (Timestamptz × UUID) → String
  | none => ""
  | some (createdAt, id) => codec.encodeCursor createdAt.toTime id

/-- `pageParams`. -/
def pageParams (limit : Int) (cursor : String) : PageQuery := ⟨limit, codec.decodeCursor cursor⟩

/-- What a client sees of a page: the rows, and the cursor to go on with while `has_more`. -/
def response {α : Type} (page : Page α) : List α × Option String :=
  (page.items, if page.hasMore then some (codec.nextCursor page.nextCursor) else none)

variable {codec}

theorem toTimestamptz_toTime (t : Timestamptz) : t.toTime.toTimestamptz = t := by
  unfold Timestamptz.toTime Time.toTimestamptz
  exact Int.mul_ediv_cancel t (by decide)

/-- The cursor of a page comes back as the place that it stands for. -/
theorem Inverts.after (inverts : codec.Inverts) (limit : Int)
    (cursor : Option (Timestamptz × UUID)) :
    (codec.pageParams limit (codec.nextCursor cursor)).after = cursor ∧
      (codec.pageParams limit (codec.nextCursor cursor)).cursor ≠ .malformed := by
  cases cursor with
  | none => simp [nextCursor, pageParams, decodeCursor, PageQuery.after, Param.value?]
  | some last =>
      obtain ⟨createdAt, id⟩ := last
      have back := inverts createdAt id
      simp [nextCursor, pageParams, PageQuery.after, back, Param.value?, toTimestamptz_toTime]

end CursorCodec

/-! ## Keyset listings -/

section Keyset

variable {α : Type} (createdAt : α → Timestamptz) (id : α → UUID)

/-- `(created_at, id)`, in the order of the two columns. -/
def rowKey (row : α) : Timestamptz ×ₗ UUID := toLex (createdAt row, id row)

/-- What a client can rely on. The tables are those at the time of each request; the client starts
with an empty cursor. -/
structure Paginates (tables : Nat → List α) (matching : Nat → α → Bool) (limit : Nat)
    (fetch : Nat → String → List α × Option String) : Prop where
  withinLimit : ∀ n, ∀ response ∈ visit fetch n 0 "", response.1.length ≤ limit
  increasing : ∀ n, (received (visit fetch n 0 "")).Pairwise fun first second =>
    createdAt first < createdAt second ∨
      createdAt first = createdAt second ∧ id first < id second
  genuine : ∀ n, ∀ row ∈ received (visit fetch n 0 ""),
    ∃ i, row ∈ tables i ∧ matching i row = true
  once : ∀ n, ((received (visit fetch n 0 "")).map id).Nodup
  complete : ∀ n, Ends (visit fetch n 0 "") → ∀ k,
    (∀ i < (visit fetch n 0 "").length, ∃ row ∈ tables i, matching i row = true ∧ id row = k) →
      ∃ row ∈ received (visit fetch n 0 ""), id row = k
  terminates : ∀ m,
    (∀ i, m ≤ i → ∀ row ∈ tables (i + 1), ∃ old ∈ tables i, id old = id row) →
      ∃ n, Ends (visit fetch n 0 "")
  unchanging : ∀ n, Ends (visit fetch n 0 "") → ∀ table fits, (∀ i, tables i = table) →
    (∀ i, matching i = fits) →
      received (visit fetch n 0 "") = orderBy createdAt (fun _ => 0) id (table.filter fits)

variable {createdAt id}

theorem rowKey_lt_iff {first second : α} :
    rowKey createdAt id first < rowKey createdAt id second ↔
      createdAt first < createdAt second ∨
        createdAt first = createdAt second ∧ id first < id second :=
  Prod.Lex.toLex_lt_toLex

theorem rowKey_le_iff {first second : α} :
    rowKey createdAt id first ≤ rowKey createdAt id second ↔
      Ordered createdAt (fun _ => 0) id first second := by
  unfold rowKey Ordered
  rw [Prod.Lex.toLex_le_toLex]
  simp

theorem past_iff {cursor : Option (Timestamptz × UUID)} {row : α} :
    Past (cursor.map toLex) (rowKey createdAt id row) ↔
      PastCursor cursor (createdAt row) (id row) := by
  cases cursor with
  | none => simp [Past, PastCursor]
  | some last =>
      simp only [Past, PastCursor, Option.map_some, Option.mem_some_iff, forall_eq', rowKey,
        Prod.Lex.toLex_lt_toLex]

/-- The rows of a keyset query are those of the library. -/
theorem orderBy_filter_eq_keysetRows (fits : α → Bool) (cursor : Option (Timestamptz × UUID))
    (table : List α) :
    orderBy createdAt (fun _ => 0) id
        (table.filter fun row => fits row && decide (PastCursor cursor (createdAt row) (id row))) =
      keysetRows (rowKey createdAt id) fits (cursor.map toLex) table := by
  have same : (fun row => fits row && decide (PastCursor cursor (createdAt row) (id row))) =
      fun row => fits row && decide (Past (cursor.map toLex) (rowKey createdAt id row)) := by
    funext row
    rw [decide_eq_decide.mpr past_iff]
  unfold orderBy keysetRows
  rw [same]
  exact insertionSort_congr _ _ fun _ _ _ _ => rowKey_le_iff.symm

/-- The page of a keyset query, as a client sees it. -/
theorem response_keysetPage (codec : CursorCodec) (limit : Nat) (rows : List α) :
    codec.response (keysetPage limit (fun row => (createdAt row, id row)) rows) =
      ((keysetFetch (rowKey createdAt id) limit rows).1,
        (keysetFetch (rowKey createdAt id) limit rows).2.map
          fun cursor => codec.nextCursor (cursor.map ofLex)) := by
  unfold keysetPage keysetFetch CursorCodec.response
  have fetched : limit < (rows.take (limit + 1)).length ↔ limit < rows.length := by
    rw [List.length_take]
    omega
  have first : (rows.take (limit + 1)).take limit = rows.take limit := by
    rw [List.take_take]
    congr 1
    omega
  simp only [fetched, first]
  split
  · simp only [if_true, Option.map_some, Option.map_map]
    rfl
  next few =>
    rw [List.take_of_length_le (by omega)]
    simp

end Keyset

/-! ## Clients of a keyset listing -/

section Responses

variable {α : Type} {createdAt : α → Timestamptz} {id : α → UUID} {codec : CursorCodec}
  {tables : Nat → List α} {matching : Nat → α → Bool} {limit : Nat}
  {fetch : Nat → String → List α × Option String}

/-- Unique identifiers make unique keys. -/
theorem rowKey_nodup (unique : ∀ i, ((tables i).map id).Nodup) (i : Nat) :
    ((tables i).map (rowKey createdAt id)).Nodup := by
  refine List.Nodup.of_map (fun key => (ofLex key).2) ?_
  rw [List.map_map]
  exact unique i

/-- A row keeps its key. -/
theorem rowKey_eq (lasting : ∀ i j, ∀ row ∈ tables i, ∀ other ∈ tables j, id row = id other →
      createdAt row = createdAt other) {i j : Nat} {row other : α} (here : row ∈ tables i)
    (there : other ∈ tables j) (same : id row = id other) :
    rowKey createdAt id row = rowKey createdAt id other := by
  unfold rowKey
  rw [lasting i j row here other there same, same]

/-- The responses are keyset pages, with the cursors encoded. -/
theorem visit_responses
    (responses : ∀ i cursor, fetch i (codec.nextCursor cursor) =
      codec.response (keysetPage limit (fun row => (createdAt row, id row))
        (orderBy createdAt (fun _ => 0) id ((tables i).filter fun row =>
          matching i row && decide (PastCursor cursor (createdAt row) (id row)))))) (n : Nat) :
    visit fetch n 0 "" =
      (visit (keysetRequests (rowKey createdAt id) limit tables matching) n 0 none).map
        fun response => (response.1, response.2.map fun cursor =>
          codec.nextCursor (cursor.map ofLex)) := by
  refine visit_map (fun cursor => codec.nextCursor (cursor.map ofLex)) ?_ n 0 none
  intro i cursor
  rw [responses, response_keysetPage, orderBy_filter_eq_keysetRows, Option.map_map]
  simp [keysetRequests, Function.comp_def]

/-- A listing is paged through if each of its responses is a keyset page. -/
theorem paginates_of_responses (codec : CursorCodec) (positive : 0 < limit)
    (unique : ∀ i, ((tables i).map id).Nodup)
    (lasting : ∀ i j, ∀ row ∈ tables i, ∀ other ∈ tables j, id row = id other →
      createdAt row = createdAt other)
    (responses : ∀ i cursor, fetch i (codec.nextCursor cursor) =
      codec.response (keysetPage limit (fun row => (createdAt row, id row))
        (orderBy createdAt (fun _ => 0) id ((tables i).filter fun row =>
          matching i row && decide (PastCursor cursor (createdAt row) (id row)))))) :
    Paginates createdAt id tables matching limit fetch := by
  have keys : ∀ i, ((tables i).map (rowKey createdAt id)).Nodup := rowKey_nodup unique
  have visits := visit_responses responses
  have ends : ∀ n, Ends (visit fetch n 0 "") ↔
      Ends (visit (keysetRequests (rowKey createdAt id) limit tables matching) n 0 none) := by
    intro n
    rw [visits, ends_map]
  have rows : ∀ n, received (visit fetch n 0 "") =
      received (visit (keysetRequests (rowKey createdAt id) limit tables matching) n 0 none) := by
    intro n
    rw [visits, received_map]
  constructor
  case withinLimit =>
    intro n response member
    rw [visits] at member
    obtain ⟨fetched, inVisit, rfl⟩ := List.mem_map.mp member
    exact length_le_of_mem_visit inVisit
  case increasing =>
    intro n
    rw [rows]
    exact (visit_sorted positive keys n 0 none).imp rowKey_lt_iff.mp
  case genuine =>
    intro n row member
    rw [rows] at member
    obtain ⟨_, i, _, present⟩ := mem_received positive keys member
    exact ⟨i, present⟩
  case once =>
    intro n
    rw [rows]
    refine List.pairwise_map.mpr ((visit_sorted positive keys n 0 none).imp_of_mem ?_)
    intro first second firstMember secondMember order same
    obtain ⟨_, i, _, here, _⟩ := mem_received positive keys firstMember
    obtain ⟨_, j, _, there, _⟩ := mem_received positive keys secondMember
    exact absurd (rowKey_eq lasting here there same) order.ne
  case complete =>
    intro n finished k present
    have some : 0 < (visit fetch n 0 "").length := by
      obtain ⟨response, member, _⟩ := finished
      exact List.length_pos_of_mem member
    obtain ⟨first, here, _, rfl⟩ := present 0 some
    have length : (visit fetch n 0 "").length =
        (visit (keysetRequests (rowKey createdAt id) limit tables matching) n 0 none).length := by
      rw [visits, List.length_map]
    have throughout : ∀ i, 0 ≤ i → i < 0 + (visit
        (keysetRequests (rowKey createdAt id) limit tables matching) n 0 none).length →
        ∃ row ∈ tables i, matching i row = true ∧
          rowKey createdAt id row = rowKey createdAt id first := by
      intro i _ before
      obtain ⟨row, member, fits, same⟩ := present i (by omega)
      exact ⟨row, member, fits, rowKey_eq lasting member here same⟩
    obtain ⟨row, delivered, same⟩ := visit_complete positive keys ((ends n).mp finished)
      (fun _ absent => by cases absent) throughout
    rw [rows]
    exact ⟨row, delivered, congrArg (fun key => (ofLex key).2) same⟩
  case terminates =>
    intro m settled
    have settledKeys : ∀ i, 0 + m ≤ i → ∀ row ∈ tables (i + 1), ∃ old ∈ tables i,
        rowKey createdAt id old = rowKey createdAt id row := by
      intro i after row member
      obtain ⟨old, before, same⟩ := settled i (by omega) row member
      exact ⟨old, before, rowKey_eq lasting before member same⟩
    obtain ⟨n, finished⟩ := visit_ends positive keys m 0 none settledKeys
    exact ⟨n, (ends n).mpr finished⟩
  case unchanging =>
    intro n finished table fits same same'
    rw [rows, visit_unchanging positive keys ((ends n).mp finished) same same']
    have whole : (table.filter fun row =>
        fits row && decide (PastCursor none (createdAt row) (id row))) = table.filter fits := by
      simp [PastCursor]
    have unread : orderBy createdAt (fun _ => 0) id (table.filter fits) =
        keysetRows (rowKey createdAt id) fits none table := by
      rw [← whole]
      exact orderBy_filter_eq_keysetRows fits none table
    exact unread.symm

end Responses

/-! ## Projects and queues -/

section Listings

variable (codec : CursorCodec)

/-- What a client sees of a response to `GET /projects`. -/
def ApiResponse.projects (response : ApiResponse) : List Project × Option String :=
  match response.body with
  | .projects page => codec.response page
  | _ => ([], none)

/-- What a client sees of a response to `GET /queues`. -/
def ApiResponse.queues (response : ApiResponse) : List Queue × Option String :=
  match response.body with
  | .queues page => codec.response page
  | _ => ([], none)

/-- An optional filter, as a query parameter. -/
def Param.ofOption {α : Type} : Option α → Param α
  | none => .absent
  | some value => .given value

theorem Param.value?_ofOption {α : Type} (value : Option α) :
    (Param.ofOption value).value? = value := by
  cases value <;> rfl

theorem Param.ofOption_ne_malformed {α : Type} (value : Option α) :
    Param.ofOption value ≠ .malformed := by
  cases value <;> simp [Param.ofOption]

/-- The projects of the organization that the filter admits. -/
def Site.matchesProject (ilike : String → String → Bool) (orgId : UUID) (name : String)
    (project : Project) : Bool :=
  project.orgId = orgId ∧ (name = "" ∨ ilike project.name ("%" ++ name ++ "%"))

/-- The queues of the organization that the filters admit. -/
def Site.matchesQueue (site : Site) (ilike : String → String → Bool) (orgId : UUID)
    (name : String) (isPaused : Option Bool) (projectId : Option UUID) (queue : Queue) : Bool :=
  site.QueueOf orgId queue ∧ (name = "" ∨ ilike queue.name ("%" ++ name ++ "%")) ∧
    (∀ paused ∈ isPaused, queue.paused = paused) ∧ ∀ id ∈ projectId, queue.projectId = id

/-- The tables of projects and queues over time: identifiers are unique, and a row keeps its
`created_at`. -/
structure Lasting (sites : Nat → Site) : Prop where
  projectIds : ∀ i, ((sites i).projects.map (·.id)).Nodup
  projectDates : ∀ i j, ∀ row ∈ (sites i).projects, ∀ other ∈ (sites j).projects,
    row.id = other.id → row.createdAt = other.createdAt
  queueIds : ∀ i, ((sites i).queues.map (·.id)).Nodup
  queueDates : ∀ i j, ∀ row ∈ (sites i).queues, ∀ other ∈ (sites j).queues,
    row.id = other.id → row.createdAt = other.createdAt

theorem clampLimit_pos (limit : Int) : 0 < clampLimit limit := by
  unfold clampLimit
  split
  · decide
  · split
    · decide
    · omega

variable {codec}

/-- `ProjectHandler.List` answers with a keyset page. -/
theorem projects_response (inverts : codec.Inverts) (env : ApiEnv) (orgId : UUID) (site : Site)
    (name : String) (limit : Int) (cursor : Option (Timestamptz × UUID)) :
    (ProjectHandler.list env orgId site name
        (codec.pageParams limit (codec.nextCursor cursor))).1.projects codec =
      codec.response (keysetPage (clampLimit limit) (fun p => (p.createdAt, p.id))
        (orderBy Project.createdAt (fun _ => 0) Project.id (site.projects.filter fun p =>
          Site.matchesProject env.ilike orgId name p &&
            decide (PastCursor cursor p.createdAt p.id)))) := by
  obtain ⟨after, wellFormed⟩ := inverts.after limit cursor
  unfold ProjectHandler.list
  split
  next bad => exact absurd bad wellFormed
  next =>
    rw [after]
    simp only [ApiResponse.projects, Site.listProjects, Site.matchesProject, Bool.decide_and,
      Bool.and_assoc]
    rfl

/-- `QueueHandler.List` answers with a keyset page. -/
theorem queues_response (inverts : codec.Inverts) (env : ApiEnv) (orgId : UUID) (site : Site)
    (name : String) (isPaused : Option Bool) (projectId : Option UUID) (limit : Int)
    (cursor : Option (Timestamptz × UUID)) :
    (QueueHandler.list env orgId site name (.ofOption isPaused) (.ofOption projectId)
        (codec.pageParams limit (codec.nextCursor cursor))).1.queues codec =
      codec.response (keysetPage (clampLimit limit) (fun q => (q.createdAt, q.id))
        (orderBy Queue.createdAt (fun _ => 0) Queue.id (site.queues.filter fun q =>
          site.matchesQueue env.ilike orgId name isPaused projectId q &&
            decide (PastCursor cursor q.createdAt q.id)))) := by
  obtain ⟨after, wellFormed⟩ := inverts.after limit cursor
  unfold QueueHandler.list
  split
  next bad => exact absurd bad (Param.ofOption_ne_malformed isPaused)
  next bad _ => exact absurd bad (Param.ofOption_ne_malformed projectId)
  next bad _ _ => exact absurd bad wellFormed
  next =>
    rw [after, Param.value?_ofOption, Param.value?_ofOption]
    simp only [ApiResponse.queues, Site.listQueues, Site.matchesQueue, Bool.decide_and,
      Bool.and_assoc]
    rfl

/-- **Projects and queues can be paged through.** For every organization, filter and requested
limit, while the tables change in any way between the requests. -/
theorem keyset_pagination (inverts : codec.Inverts) (sites : Nat → Site) (lasting : Lasting sites)
    (env : Nat → ApiEnv) (orgId : UUID) (limit : Int) (name : String) :
    Paginates Project.createdAt Project.id (fun i => (sites i).projects)
        (fun i => Site.matchesProject (env i).ilike orgId name) (clampLimit limit)
        (fun i cursor => (ProjectHandler.list (env i) orgId (sites i) name
          (codec.pageParams limit cursor)).1.projects codec) ∧
      ∀ (isPaused : Option Bool) (projectId : Option UUID),
        Paginates Queue.createdAt Queue.id (fun i => (sites i).queues)
          (fun i => (sites i).matchesQueue (env i).ilike orgId name isPaused projectId)
          (clampLimit limit)
          (fun i cursor => (QueueHandler.list (env i) orgId (sites i) name (.ofOption isPaused)
            (.ofOption projectId) (codec.pageParams limit cursor)).1.queues codec) := by
  constructor
  · refine paginates_of_responses codec (clampLimit_pos limit) lasting.projectIds
      lasting.projectDates ?_
    intro i cursor
    exact projects_response inverts (env i) orgId (sites i) name limit cursor
  · intro isPaused projectId
    refine paginates_of_responses codec (clampLimit_pos limit) lasting.queueIds
      lasting.queueDates ?_
    intro i cursor
    exact queues_response inverts (env i) orgId (sites i) name isPaused projectId limit cursor

end Listings

/-- What `json.Marshal` and base64 make of the epoch and identifier `1`. -/
def firstToken : String :=
  "eyJ0IjoiMTk3MC0wMS0wMVQwMDowMDowMFoiLCJpIjoiMDAwMDAwMDAtMDAwMC0wMDAwLTAwMDAtMDAwMDAwMDAwMDAxIn0="

/-- The token of that one cursor is the real one; any other cursor is numbered, and its token is as
long as its number. -/
def tokenCodec : CursorCodec where
  marshal cursor :=
    if cursor = ((0, 1) : Int × Nat) then firstToken
    else String.ofList (List.replicate (Encodable.encode (cursor : Int × Nat) + 1) 'A')
  unmarshal text :=
    if text = firstToken then some ((0, 1) : Int × Nat)
    else (Encodable.decode (text.length - 1) : Option (Int × Nat))

theorem tokenCodec_inverts : tokenCodec.Inverts := by
  have token (n : Nat) : String.ofList (List.replicate (n + 1) 'A') ≠ firstToken := by
    intro same
    have first := congrArg (fun text => text.toList.head?) same
    simp [firstToken, List.replicate_succ] at first
  have nonempty (n : Nat) : String.ofList (List.replicate (n + 1) 'A') ≠ "" := by
    intro same
    have length := congrArg String.length same
    simp at length
  intro createdAt id
  unfold CursorCodec.encodeCursor CursorCodec.decodeCursor
  by_cases first : (createdAt.toTime, id) = ((0, 1) : Int × Nat)
  · have marshalled : tokenCodec.marshal (createdAt.toTime, id) = firstToken := if_pos first
    have read : tokenCodec.unmarshal firstToken = some ((0, 1) : Int × Nat) := by
      simp [tokenCodec]
    rw [marshalled, if_neg (by decide)]
    simp only [read, first]
  · have marshalled : tokenCodec.marshal (createdAt.toTime, id) = String.ofList
        (List.replicate (Encodable.encode ((createdAt.toTime, id) : Int × Nat) + 1) 'A') :=
      if_neg first
    have read : tokenCodec.unmarshal (tokenCodec.marshal (createdAt.toTime, id)) =
        some (createdAt.toTime, id) := by
      rw [marshalled]
      refine (if_neg (token _)).trans ?_
      rw [String.length_ofList, List.length_replicate, Nat.add_sub_cancel]
      exact Encodable.encodek ((createdAt.toTime, id) : Int × Nat)
    rw [marshalled, if_neg (nonempty _), ← marshalled]
    simp only [read]

/-- Two projects of one instant, a queue and a job. -/
def twoProjects : Site where
  organizations := [⟨7, "Acme", "acme", 0, 0⟩]
  users := []
  projects := [⟨2, 7, "News", "news", none, 0, 0⟩, ⟨1, 7, "Mail", "mail", none, 0, 0⟩]
  retryPolicies := []
  queues := [⟨3, 1, "Outbox", "outbox", none, 0, none, false, 0, 0⟩]
  workers := []
  workerHeartbeats := []
  jobs := [⟨4, 3, .queued, 0, .null, none, some 0, 0, 3, none, none, none, none, none, none,
    none, none, none, 0, 0⟩]
  executions := []
  logs := []
  letters := []

/-- A server without a clock, a cron library and patterns. -/
def bareEnv : ApiEnv := ⟨fun _ => .error "unsupported", fun _ _ => true, toString, id, 0, 0⟩

/-- A client that asks for one project at a time. -/
def oneProjectAtATime (_ : Nat) (cursor : String) : List Project × Option String :=
  (ProjectHandler.list bareEnv 7 twoProjects "" (tokenCodec.pageParams 1 cursor)).1.projects
    tokenCodec

theorem keyset_pagination_twoProjects :
    (∃ n, Ends (visit oneProjectAtATime n 0 "")) ∧
      ∀ n, Ends (visit oneProjectAtATime n 0 "") →
        (received (visit oneProjectAtATime n 0 "")).map (·.id) = [1, 2] := by
  have lasting : Lasting fun _ => twoProjects := by
    refine ⟨fun _ => by decide, fun _ _ => by decide, fun _ => by decide, fun _ _ => by decide⟩
  have pages := (keyset_pagination tokenCodec_inverts (fun _ => twoProjects) lasting
    (fun _ => bareEnv) 7 1 "").1
  refine ⟨pages.terminates 0 fun _ _ row member => ⟨row, member, rfl⟩, ?_⟩
  intro n ends
  have rows := pages.unchanging n ends _ _ (fun _ => rfl) fun _ => rfl
  have listed : received (visit oneProjectAtATime n 0 "") = orderBy Project.createdAt (fun _ => 0)
      Project.id (twoProjects.projects.filter (Site.matchesProject bareEnv.ilike 7 "")) := rows
  rw [listed]
  rfl

/-! ## Jobs and dead letters -/

section Limited

variable {α : Type}

/-- A client receives the rows, each once, and a page says that there is more exactly when rows
are left that no page has shown so far. -/
structure PagedThrough (fetch : Nat → String → List α × Option String) (rows : List α) : Prop where
  receives : ∃ n, Ends (visit fetch n 0 "") ∧ (received (visit fetch n 0 "")).Perm rows
  hasMore : ∀ n earlier response later, visit fetch n 0 "" = earlier ++ response :: later →
    (response.2 ≠ none ↔ ∃ row ∈ rows, row ∉ received (earlier ++ [response]))

/-- A listing that fetches the limit and ignores the cursor is paged through exactly when the rows
do not fill a page. -/
theorem pagedThrough_iff (codec : CursorCodec) {limit : Nat}
    {fetch : Nat → String → List α × Option String} {rows : List α}
    (pages : ∀ i cursor, ∃ listed : List α, listed.Perm rows ∧
      fetch i cursor = codec.response (limitPage limit listed)) :
    PagedThrough fetch rows ↔ rows.length < limit := by
  constructor
  · intro paged
    obtain ⟨n, ⟨response, member, last⟩, _⟩ := paged.receives
    obtain ⟨i, cursor, rfl⟩ := exists_of_mem_visit member
    obtain ⟨listed, perm, answer⟩ := pages i cursor
    rw [answer] at last
    by_contra full
    rw [← perm.length_eq, not_lt] at full
    simp [CursorCodec.response, limitPage, full] at last
  · intro few
    have answers : ∀ i cursor, ∃ listed : List α, listed.Perm rows ∧
        fetch i cursor = (listed, none) := by
      intro i cursor
      obtain ⟨listed, perm, answer⟩ := pages i cursor
      refine ⟨listed, perm, ?_⟩
      rw [← perm.length_eq] at few
      have whole : listed.take limit = listed := List.take_of_length_le few.le
      rw [answer]
      simp [CursorCodec.response, limitPage, whole, few.ne]
    obtain ⟨listed, perm, answer⟩ := answers 0 ""
    constructor
    · refine ⟨1, ends_of_last (by rw [answer]), ?_⟩
      rw [visit_last (by rw [answer]), received_cons, answer, received_nil, List.append_nil]
      exact perm
    · intro n earlier response later shown
      cases n with
      | zero =>
          have none := congrArg List.length shown
          simp [visit] at none
      | succ n =>
          -- the first page is the only one
          rw [visit_last (by rw [answer])] at shown
          cases earlier with
          | cons first rest =>
              have two := congrArg List.length shown
              simp at two
          | nil =>
              rw [List.nil_append, List.cons.injEq] at shown
              rw [← shown.1, answer]
              simp [received, perm.mem_iff]

end Limited

section

variable (codec : CursorCodec)

/-- What a client sees of a response to `GET /jobs` and `GET /queues/{id}/jobs`. -/
def ApiResponse.jobs (response : ApiResponse) : List Job × Option String :=
  match response.body with
  | .jobs page => codec.response page
  | _ => ([], none)

/-- What a client sees of a response to `GET /dlq`. -/
def ApiResponse.letters (response : ApiResponse) : List DLQListItem × Option String :=
  match response.body with
  | .letters page => codec.response page
  | _ => ([], none)

/-- The jobs of the organization that the filters admit. -/
def Site.matchingJobs (site : Site) (orgId : UUID) (status : String) (queueId : Option UUID) :
    List Job :=
  site.jobs.filter fun j =>
    site.QueueIdOf orgId j.queueId ∧ (status = "" ∨ j.status.text = status) ∧
      ∀ id ∈ queueId, j.queueId = id

/-- The dead letters of the organization, each with the name of its queue. -/
def Site.matchingLetters (site : Site) (orgId : UUID) : List DLQListItem :=
  (site.letters.filter fun d => site.QueueIdOf orgId d.entry.originalQueueId).filterMap fun d =>
    (site.queues.find? (·.id = d.entry.originalQueueId)).map fun q => ⟨d, q.name⟩

variable (env : Nat → ApiEnv) (orgId : UUID) (site : Site) (limit : Int)

theorem listJobs_pagedThrough_iff (status : String) (queueId : Option UUID) :
    PagedThrough (fun i cursor => (JobHandler.listJobs (env i) orgId site status
        (.ofOption queueId) (codec.pageParams limit cursor)).1.jobs codec)
        (site.matchingJobs orgId status queueId) ↔
      (site.matchingJobs orgId status queueId).length < clampLimit limit := by
  refine pagedThrough_iff codec fun i cursor =>
    ⟨_, orderBy_perm (- ·.createdAt) ((env i).rank ·.id) (·.id) _, ?_⟩
  have filter := Param.value?_ofOption queueId
  unfold JobHandler.listJobs
  split
  next bad => exact absurd bad (Param.ofOption_ne_malformed queueId)
  next =>
    rw [filter]
    rfl

theorem listByQueue_pagedThrough_iff (queueId : UUID) (status : String) :
    PagedThrough (fun i cursor => (JobHandler.listByQueue (env i) orgId site (some queueId) status
        (codec.pageParams limit cursor)).1.jobs codec)
        (site.matchingJobs orgId status (some queueId)) ↔
      (site.matchingJobs orgId status (some queueId)).length < clampLimit limit := by
  refine pagedThrough_iff codec fun i cursor =>
    ⟨_, orderBy_perm (- ·.createdAt) ((env i).rank ·.id) (·.id) _, ?_⟩
  have same : site.matchingJobs orgId status (some queueId) = site.jobs.filter fun j =>
      j.queueId = queueId ∧ site.QueueIdOf orgId j.queueId ∧
        (status = "" ∨ j.status.text = status) := by
    unfold Site.matchingJobs
    congr 1
    funext j
    simp only [Option.mem_some_iff, forall_eq', decide_eq_decide]
    constructor
    · rintro ⟨owned, fits, same⟩
      exact ⟨same, owned, fits⟩
    · rintro ⟨same, owned, fits⟩
      exact ⟨owned, fits, same⟩
  rw [same]
  rfl

theorem listDLQ_pagedThrough_iff :
    PagedThrough (fun i cursor => (JobHandler.listDLQ (env i) orgId site
        (codec.pageParams limit cursor)).1.letters codec) (site.matchingLetters orgId) ↔
      (site.matchingLetters orgId).length < clampLimit limit := by
  refine pagedThrough_iff codec fun i cursor =>
    ⟨_, (orderBy_perm (- ·.entry.failedAt) ((env i).rank ·.id) (·.id) _).filterMap _, ?_⟩
  rfl

end

end JobScheduler
