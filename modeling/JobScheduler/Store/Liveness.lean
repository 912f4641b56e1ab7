import JobScheduler.Store.Reaper
import JobScheduler.Transition.Run

/-!
# Which workers are reported active

The status of a worker is in `workers`, its last heartbeat in `worker_heartbeats`.
`RegisterWorker` writes both, a sweep of `MarkDeadWorkers` takes the workers whose heartbeat is
old out of service, and `Heartbeat` writes the second table only: nothing in the store makes an
offline worker active again. So a worker that was silent for longer than the threshold stays
offline when it resumes its heartbeats, and every worker with a recent heartbeat is reported
active exactly when no worker resumes after a sweep has listed it (`reported_active_iff`).

Registrations, heartbeats, sweeps and deregistrations interleave statement by statement.
-/

set_option autoImplicit false

namespace JobScheduler

open Relational Transition

/-! ## The statements -/

namespace Database

variable (db : Database)

/-- The first statement of `RegisterWorker`. -/
def insertWorker (now : Timestamptz) (id : UUID) (name : String) : Database :=
  { db with workers := db.workers ++ [⟨id, name, .active, now, now⟩] }

/-- The second statement of `RegisterWorker`. -/
def seedHeartbeat (now : Timestamptz) (id : UUID) : Database :=
  { db with workerHeartbeats := db.workerHeartbeats ++ [⟨id, now, now⟩] }

/-- The first statement of `Heartbeat`. -/
def touchHeartbeat (now : Timestamptz) (workerId : UUID) : Database :=
  { db with
    workerHeartbeats := update (·.workerId = workerId)
      (fun beat => { beat with lastSeenAt := now, updatedAt := now }) db.workerHeartbeats }

/-- The second statement of `Heartbeat`. -/
def renewLeases (now : Timestamptz) (workerId : UUID) (leaseSeconds : Int) : Database :=
  { db with jobs := update (Job.RenewedBy workerId) (Job.renewLease now leaseSeconds) db.jobs }

theorem registerWorker_eq (now : Timestamptz) (id : UUID) (name : String) :
    db.registerWorker now id name = (db.insertWorker now id name).seedHeartbeat now id :=
  rfl

theorem heartbeat_eq (now : Timestamptz) (workerId : UUID) (leaseSeconds : Int) :
    db.heartbeat now workerId leaseSeconds =
      (db.touchHeartbeat now workerId).renewLeases now workerId leaseSeconds :=
  rfl

/-- The subquery of `MarkDeadWorkers`: the workers whose last heartbeat is too old. -/
def staleWorkers (now : Timestamptz) (staleThreshold : Int) : List UUID :=
  (db.workerHeartbeats.filter fun beat => beat.lastSeenAt < now - staleThreshold / 1000).map
    (·.workerId)

/-! ## What the tables say of a worker -/

/-- The status of the worker. -/
def workerStatus (id : UUID) : Option WorkerStatus :=
  (db.workers.find? (·.id = id)).map (·.status)

/-- The last heartbeat of the worker. -/
def lastSeen (id : UUID) : Option Timestamptz :=
  (db.workerHeartbeats.find? (·.workerId = id)).map (·.lastSeenAt)

section Lookups

variable {db} {now : Timestamptz} {id other : UUID} {name : String}

@[simp]
theorem workerStatus_insertWorker : (db.insertWorker now id name).workerStatus other =
    (db.workerStatus other).or (if id = other then some .active else none) := by
  unfold workerStatus insertWorker
  rw [List.find?_append, Option.map_or]
  by_cases same : id = other <;> simp [same]

@[simp]
theorem lastSeen_insertWorker :
    (db.insertWorker now id name).lastSeen other = db.lastSeen other := rfl

@[simp]
theorem workerStatus_seedHeartbeat :
    (db.seedHeartbeat now id).workerStatus other = db.workerStatus other := rfl

@[simp]
theorem lastSeen_seedHeartbeat : (db.seedHeartbeat now id).lastSeen other =
    (db.lastSeen other).or (if id = other then some now else none) := by
  unfold lastSeen seedHeartbeat
  rw [List.find?_append, Option.map_or]
  by_cases same : id = other <;> simp [same]

@[simp]
theorem workerStatus_touchHeartbeat :
    (db.touchHeartbeat now id).workerStatus other = db.workerStatus other := rfl

@[simp]
theorem lastSeen_touchHeartbeat : (db.touchHeartbeat now id).lastSeen other =
    (db.lastSeen other).map fun seen => if other = id then now else seen := by
  unfold lastSeen touchHeartbeat
  dsimp only
  rw [find?_update (by simp)]
  cases found : db.workerHeartbeats.find? (·.workerId = other) with
  | none => rfl
  | some beat =>
      have named := List.find?_some found
      rw [decide_eq_true_eq] at named
      simp only [Option.map_some, named, Option.some.injEq]
      split <;> rfl

@[simp]
theorem workerStatus_renewLeases {leaseSeconds : Int} :
    (db.renewLeases now id leaseSeconds).workerStatus other = db.workerStatus other := rfl

@[simp]
theorem lastSeen_renewLeases {leaseSeconds : Int} :
    (db.renewLeases now id leaseSeconds).lastSeen other = db.lastSeen other := rfl

@[simp]
theorem workerStatus_deregisterWorker : (db.deregisterWorker now id).workerStatus other =
    (db.workerStatus other).map fun status => if other = id then .offline else status := by
  unfold workerStatus deregisterWorker
  dsimp only
  rw [find?_update (by simp)]
  cases found : db.workers.find? (·.id = other) with
  | none => rfl
  | some row =>
      have named := List.find?_some found
      rw [decide_eq_true_eq] at named
      simp only [Option.map_some, named, Option.some.injEq]
      split <;> rfl

@[simp]
theorem lastSeen_deregisterWorker :
    (db.deregisterWorker now id).lastSeen other = db.lastSeen other := rfl

@[simp]
theorem lastSeen_markDeadWorkers {staleThreshold : Int} :
    (db.markDeadWorkers now staleThreshold).lastSeen other = db.lastSeen other := rfl

end Lookups

/-! ## What a sweep takes out of service -/

section Sweep

variable {db} {now : Timestamptz} {staleThreshold : Int} {id : UUID}

/-- The last heartbeat of the worker is too old. -/
def Silent (now : Timestamptz) (staleThreshold : Int) (db : Database) (id : UUID) : Prop :=
  ∃ seen ∈ db.lastSeen id, seen < now - staleThreshold / 1000

theorem silent_iff (beatKeys : (db.workerHeartbeats.map (·.workerId)).Nodup) :
    db.Silent now staleThreshold id ↔ ∃ beat ∈ db.workerHeartbeats, beat.workerId = id ∧
      beat.lastSeenAt < now - staleThreshold / 1000 := by
  unfold Silent lastSeen
  constructor
  · rintro ⟨seen, found, old⟩
    obtain ⟨beat, listed, rfl⟩ := Option.mem_map.mp found
    have named := List.find?_some listed
    rw [decide_eq_true_eq] at named
    exact ⟨beat, List.mem_of_find?_eq_some listed, named, old⟩
  · rintro ⟨beat, member, rfl, old⟩
    have found : db.workerHeartbeats.find? (·.workerId = beat.workerId) = some beat :=
      find?_key_eq beatKeys member
    exact ⟨beat.lastSeenAt, by rw [found]; rfl, old⟩

theorem mem_staleWorkers (beatKeys : (db.workerHeartbeats.map (·.workerId)).Nodup) :
    id ∈ db.staleWorkers now staleThreshold ↔ db.Silent now staleThreshold id := by
  rw [silent_iff beatKeys, staleWorkers]
  simp only [List.mem_map, List.mem_filter, decide_eq_true_eq]
  constructor
  · rintro ⟨beat, ⟨member, old⟩, named⟩
    exact ⟨beat, member, named, old⟩
  · rintro ⟨beat, member, named, old⟩
    exact ⟨beat, ⟨member, old⟩, named⟩

/-- A silent worker that was active is offline after the sweep. -/
theorem workerStatus_markDeadWorkers_of_silent
    (beatKeys : (db.workerHeartbeats.map (·.workerId)).Nodup)
    (silent : db.Silent now staleThreshold id) (active : db.workerStatus id = some .active) :
    (db.markDeadWorkers now staleThreshold).workerStatus id = some .offline := by
  obtain ⟨row, found, status⟩ := Option.map_eq_some_iff.mp active
  have named := List.find?_some found
  rw [decide_eq_true_eq] at named
  have taken : row.status = .active ∧ ∃ beat ∈ db.workerHeartbeats, beat.workerId = row.id ∧
      beat.lastSeenAt < now - staleThreshold / 1000 := by
    rw [named]
    exact ⟨status, (silent_iff beatKeys).mp silent⟩
  unfold workerStatus markDeadWorkers
  dsimp only
  rw [find?_update (by simp), found, Option.map_some, if_pos taken]
  rfl

/-- The sweep leaves the workers as they are that are offline or have a recent heartbeat. -/
theorem workerStatus_markDeadWorkers_of_not
    (beatKeys : (db.workerHeartbeats.map (·.workerId)).Nodup)
    (spared : db.workerStatus id = some .active → ¬ db.Silent now staleThreshold id) :
    (db.markDeadWorkers now staleThreshold).workerStatus id = db.workerStatus id := by
  unfold workerStatus at spared ⊢
  unfold markDeadWorkers
  dsimp only
  rw [find?_update (by simp)]
  cases found : db.workers.find? (·.id = id) with
  | none => rfl
  | some row =>
      have named := List.find?_some found
      rw [decide_eq_true_eq] at named
      rw [Option.map_some, if_neg]
      rintro ⟨active, beats⟩
      rw [named, ← silent_iff beatKeys] at beats
      rw [found, Option.map_some, active] at spared
      exact spared rfl beats

end Sweep

end Database

/-! ## The workers over a run -/

/-- The database with the time, and what has become of the workers. -/
structure Fleet where
  now : Timestamptz
  db : Database
  /-- The calls of `RegisterWorker` between their two statements. -/
  registering : List UUID
  /-- The workers that have been registered and not deregistered. -/
  live : List UUID
  /-- The workers that a sweep has found silent. -/
  listed : List UUID

/-- The statements, and the passing of time. -/
inductive Fleet.Action where
  | tick (micros : Nat)
  | insertWorker (id : UUID) (name : String)
  | seedHeartbeat (id : UUID)
  | touchHeartbeat (id : UUID)
  | renewLeases (id : UUID) (leaseSeconds : Int)
  | markDeadWorkers
  | deregisterWorker (id : UUID)

namespace Fleet

/-- A sweep, with the workers that its subquery lists. -/
def sweep (staleThreshold : Int) (s : Fleet) : Fleet :=
  { s with
    db := s.db.markDeadWorkers s.now staleThreshold
    listed := s.db.staleWorkers s.now staleThreshold ++ s.listed }

/-- One step. `RegisterWorker` draws a new identifier, and the identifier is not known to any other
call before it returns. -/
def step (staleThreshold : Int) (s : Fleet) : Action → Option Fleet
  | .tick micros => some { s with now := s.now + micros }
  | .insertWorker id name =>
      if s.db.workerStatus id = none ∧ s.db.lastSeen id = none then
        some { s with
          db := s.db.insertWorker s.now id name
          registering := id :: s.registering }
      else none
  | .seedHeartbeat id =>
      if id ∈ s.registering then
        some { s with
          db := s.db.seedHeartbeat s.now id
          registering := s.registering.filter (· ≠ id)
          live := id :: s.live }
      else none
  | .touchHeartbeat id => some { s with db := s.db.touchHeartbeat s.now id }
  | .renewLeases id leaseSeconds => some { s with db := s.db.renewLeases s.now id leaseSeconds }
  | .markDeadWorkers => some (s.sweep staleThreshold)
  | .deregisterWorker id =>
      if id ∈ s.registering then none
      else some { s with
        db := s.db.deregisterWorker s.now id
        live := s.live.filter (· ≠ id) }

/-- Runs start from any database in which each worker has one heartbeat row. -/
def system (staleThreshold : Int) : System Fleet Action where
  initial s := (s.db.workerHeartbeats.map (·.workerId)).Nodup ∧ s.registering = [] ∧ s.live = [] ∧
    s.listed = []
  step := step staleThreshold

/-- Every live worker whose last heartbeat is no older than the threshold is active. -/
def ReportedActive (staleThreshold : Int) (s : Fleet) : Prop :=
  ∀ id ∈ s.live, ∀ seen ∈ s.db.lastSeen id, s.now - staleThreshold / 1000 ≤ seen →
    s.db.workerStatus id = some .active

/-- The step is not the heartbeat of a live worker that a sweep has listed. -/
def BeatsInTime (s : Fleet) : Action → Prop
  | .touchHeartbeat id => id ∈ s.live → id ∉ s.listed
  | _ => True

/-- A live worker is active and no sweep has listed it, or it is offline and silent since. -/
def LiveWorker (staleThreshold : Int) (s : Fleet) (id : UUID) : Prop :=
  ∃ seen, s.db.lastSeen id = some seen ∧
    (id ∉ s.listed ∧ s.db.workerStatus id = some .active ∨
      id ∈ s.listed ∧ s.db.workerStatus id = some .offline ∧ seen < s.now - staleThreshold / 1000)

/-- What holds in every state of a run in which the workers beat in time. -/
structure Sound (staleThreshold : Int) (s : Fleet) : Prop where
  beatKeys : (s.db.workerHeartbeats.map (·.workerId)).Nodup
  heard : ∀ id ∈ s.listed, s.db.lastSeen id ≠ none
  unseeded : ∀ id ∈ s.registering, s.db.workerStatus id = some .active ∧ s.db.lastSeen id = none
  live : ∀ id ∈ s.live, LiveWorker staleThreshold s id

section Runs

variable {staleThreshold : Int} {s s' : Fleet} {action : Action}

theorem sound_initial (initial : (system staleThreshold).initial s) : Sound staleThreshold s := by
  obtain ⟨beatKeys, registering, live, listed⟩ := initial
  refine ⟨beatKeys, ?_, ?_, ?_⟩
  · simp [listed]
  · simp [registering]
  · simp [live]

/-- A worker that nothing has been heard of has no heartbeat row. -/
theorem lastSeen_eq_none {db : Database} {id : UUID} (unseen : db.lastSeen id = none) :
    id ∉ db.workerHeartbeats.map (·.workerId) := by
  intro member
  obtain ⟨beat, listed, named⟩ := List.mem_map.mp member
  have missing := List.find?_eq_none.mp (Option.map_eq_none_iff.mp unseen) beat listed
  rw [decide_eq_true_eq] at missing
  exact missing named

/-- A step that writes neither row of a worker and lists nobody. -/
theorem LiveWorker.keep {id : UUID} (worker : LiveWorker staleThreshold s id)
    (later : s.now ≤ s'.now) (listed : s'.listed = s.listed)
    (beat : ∀ seen ∈ s.db.lastSeen id, s'.db.lastSeen id = some seen)
    (row : ∀ status ∈ s.db.workerStatus id, s'.db.workerStatus id = some status) :
    LiveWorker staleThreshold s' id := by
  obtain ⟨seen, found, ⟨unlisted, active⟩ | ⟨named, offline, old⟩⟩ := worker
  · exact ⟨seen, beat seen found, .inl ⟨listed ▸ unlisted, row _ active⟩⟩
  · exact ⟨seen, beat seen found, .inr ⟨listed ▸ named, row _ offline,
      lt_of_lt_of_le old (Int.sub_le_sub_right later _)⟩⟩

/-- A sweep lists the active workers that have fallen silent, and takes them out of service. -/
theorem LiveWorker.sweep {id : UUID} (beatKeys : (s.db.workerHeartbeats.map (·.workerId)).Nodup)
    (worker : LiveWorker staleThreshold s id) :
    LiveWorker staleThreshold (s.sweep staleThreshold) id := by
  obtain ⟨seen, found, ⟨unlisted, active⟩ | ⟨listed, offline, old⟩⟩ := worker
  · refine ⟨seen, found, ?_⟩
    by_cases old : seen < s.now - staleThreshold / 1000
    · have silent : s.db.Silent s.now staleThreshold id := ⟨seen, found, old⟩
      right
      exact ⟨List.mem_append_left _ ((Database.mem_staleWorkers beatKeys).mpr silent),
        Database.workerStatus_markDeadWorkers_of_silent beatKeys silent active, old⟩
    · have recent : ¬ s.db.Silent s.now staleThreshold id := by
        rintro ⟨seen', found', old'⟩
        cases found.symm.trans found'
        exact old old'
      left
      refine ⟨?_, ?_⟩
      · rw [Fleet.sweep, List.mem_append, Database.mem_staleWorkers beatKeys, not_or]
        exact ⟨recent, unlisted⟩
      · rw [Fleet.sweep, Database.workerStatus_markDeadWorkers_of_not beatKeys fun _ => recent,
          active]
  · refine ⟨seen, found, .inr ⟨List.mem_append_right _ listed, ?_, old⟩⟩
    rw [Fleet.sweep, Database.workerStatus_markDeadWorkers_of_not beatKeys, offline]
    rw [offline]
    rintro ⟨⟩

theorem Sound.tick (sound : Sound staleThreshold s) (micros : Nat) :
    Sound staleThreshold { s with now := s.now + micros } := by
  refine ⟨sound.beatKeys, sound.heard, sound.unseeded, ?_⟩
  intro id member
  have later : s.now ≤ s.now + micros := Int.le_add_of_nonneg_right (Int.natCast_nonneg micros)
  exact (sound.live id member).keep later rfl (fun _ found => found) (fun _ found => found)

theorem Sound.insertWorker {id : UUID} (sound : Sound staleThreshold s) (name : String)
    (unknown : s.db.workerStatus id = none) (unseen : s.db.lastSeen id = none) :
    Sound staleThreshold { s with
      db := s.db.insertWorker s.now id name
      registering := id :: s.registering } := by
  refine ⟨sound.beatKeys, sound.heard, ?_, ?_⟩
  · intro other member
    rcases List.mem_cons.mp member with rfl | member
    · simp [unknown, unseen]
    · simp [sound.unseeded other member]
  · intro other member
    refine (sound.live other member).keep le_rfl rfl (fun _ found => found) ?_
    intro status found
    simp [Option.mem_def.mp found]

/-- A worker that has returned from `RegisterWorker` is active, and no sweep can have listed it. -/
theorem Sound.seedHeartbeat {id : UUID} (sound : Sound staleThreshold s)
    (started : id ∈ s.registering) :
    Sound staleThreshold { s with
      db := s.db.seedHeartbeat s.now id
      registering := s.registering.filter (· ≠ id)
      live := id :: s.live } := by
  obtain ⟨active, unseen⟩ := sound.unseeded id started
  constructor
  case beatKeys =>
    simp only [Database.seedHeartbeat, List.map_append, List.map_cons, List.map_nil]
    exact List.nodup_append'.mpr ⟨sound.beatKeys, List.nodup_singleton id,
      List.disjoint_singleton.mpr (lastSeen_eq_none unseen)⟩
  case heard =>
    intro other listed
    simp [sound.heard other listed]
  case unseeded =>
    intro other member
    rw [List.mem_filter, decide_eq_true_eq] at member
    simp [sound.unseeded other member.1, Ne.symm member.2]
  case live =>
    intro other member
    rcases List.mem_cons.mp member with rfl | member
    · have unlisted : other ∉ s.listed := fun listed => sound.heard other listed unseen
      exact ⟨s.now, by simp [unseen], .inl ⟨unlisted, active⟩⟩
    · refine (sound.live other member).keep le_rfl rfl ?_ (fun _ found => found)
      intro seen found
      simp [Option.mem_def.mp found]

/-- The heartbeat of a live worker comes before any sweep lists it. -/
theorem Sound.touchHeartbeat {id : UUID} (sound : Sound staleThreshold s)
    (inTime : id ∈ s.live → id ∉ s.listed) :
    Sound staleThreshold { s with db := s.db.touchHeartbeat s.now id } := by
  constructor
  case beatKeys => exact nodup_map_update (fun _ => rfl) sound.beatKeys
  case heard =>
    intro other listed
    simp [sound.heard other listed]
  case unseeded =>
    intro other member
    simp [sound.unseeded other member]
  case live =>
    intro other member
    obtain ⟨seen, found, ⟨unlisted, active⟩ | ⟨listed, offline, old⟩⟩ := sound.live other member
    · exact ⟨if other = id then s.now else seen, by simp [found], .inl ⟨unlisted, active⟩⟩
    · have silent : other ≠ id := by
        rintro rfl
        exact inTime member listed
      exact ⟨seen, by simp [found, silent], .inr ⟨listed, offline, old⟩⟩

theorem Sound.sweep (sound : Sound staleThreshold s) :
    Sound staleThreshold (s.sweep staleThreshold) := by
  refine ⟨sound.beatKeys, ?_, ?_, fun id member => (sound.live id member).sweep sound.beatKeys⟩
  · intro id member
    rcases List.mem_append.mp member with silent | listed
    · obtain ⟨seen, found, _⟩ := (Database.mem_staleWorkers sound.beatKeys).mp silent
      simp [Fleet.sweep, Option.mem_def.mp found]
    · exact sound.heard id listed
  · intro id member
    obtain ⟨active, unseen⟩ := sound.unseeded id member
    refine ⟨?_, unseen⟩
    rw [Fleet.sweep, Database.workerStatus_markDeadWorkers_of_not sound.beatKeys, active]
    rintro - ⟨seen, found, _⟩
    rw [unseen] at found
    cases found

theorem Sound.deregisterWorker {id : UUID} (sound : Sound staleThreshold s)
    (returned : id ∉ s.registering) :
    Sound staleThreshold { s with
      db := s.db.deregisterWorker s.now id
      live := s.live.filter (· ≠ id) } := by
  refine ⟨sound.beatKeys, sound.heard, ?_, ?_⟩
  · intro other member
    have different : other ≠ id := by
      rintro rfl
      exact returned member
    simp [sound.unseeded other member, different]
  · intro other member
    rw [List.mem_filter, decide_eq_true_eq] at member
    refine (sound.live other member.1).keep le_rfl rfl (fun _ found => found) ?_
    intro status found
    simp [Option.mem_def.mp found, member.2]

/-- A step of workers that beat in time keeps the invariant. -/
theorem Sound.step (sound : Sound staleThreshold s)
    (taken : Fleet.step staleThreshold s action = some s') (inTime : s.BeatsInTime action) :
    Sound staleThreshold s' := by
  cases action with
  | tick micros =>
      cases taken
      exact sound.tick micros
  | insertWorker id name =>
      simp only [Fleet.step, Option.ite_none_right_eq_some, Option.some.injEq] at taken
      obtain ⟨⟨unknown, unseen⟩, rfl⟩ := taken
      exact sound.insertWorker name unknown unseen
  | seedHeartbeat id =>
      simp only [Fleet.step, Option.ite_none_right_eq_some, Option.some.injEq] at taken
      obtain ⟨started, rfl⟩ := taken
      exact sound.seedHeartbeat started
  | touchHeartbeat id =>
      cases taken
      exact sound.touchHeartbeat inTime
  | renewLeases id leaseSeconds =>
      cases taken
      exact ⟨sound.beatKeys, sound.heard, sound.unseeded, sound.live⟩
  | markDeadWorkers =>
      cases taken
      exact sound.sweep
  | deregisterWorker id =>
      simp only [Fleet.step, Option.ite_none_left_eq_some, Option.some.injEq] at taken
      obtain ⟨returned, rfl⟩ := taken
      exact sound.deregisterWorker returned

theorem Sound.reportedActive (sound : Sound staleThreshold s) :
    ReportedActive staleThreshold s := by
  intro id member seen found recent
  obtain ⟨_, same, ⟨_, active⟩ | ⟨_, _, old⟩⟩ := sound.live id member
  · exact active
  · cases same.symm.trans found
    exact absurd recent (Int.not_le.mpr old)

/-- A live worker that beats after a sweep has listed it is offline, with a recent heartbeat. -/
theorem Sound.beatsInTime (sound : Sound staleThreshold s) (nonneg : 0 ≤ staleThreshold)
    (taken : Fleet.step staleThreshold s action = some s')
    (reported : ReportedActive staleThreshold s') : s.BeatsInTime action := by
  cases action with
  | touchHeartbeat id =>
      cases taken
      intro member listed
      obtain ⟨seen, found, ⟨unlisted, _⟩ | ⟨_, offline, _⟩⟩ := sound.live id member
      · exact unlisted listed
      · have beat : (s.db.touchHeartbeat s.now id).lastSeen id = some s.now := by simp [found]
        have recent : s.now - staleThreshold / 1000 ≤ s.now :=
          Int.sub_le_self _ (Int.ediv_nonneg nonneg (by decide))
        have active := reported id member s.now beat recent
        rw [Database.workerStatus_touchHeartbeat, offline] at active
        cases active
  | _ => exact trivial

end Runs

/-- **A worker with a recent heartbeat is reported active as long as no worker beats again after a
sweep has listed it, and, for a threshold that is not negative, only then.** -/
theorem reported_active_iff {staleThreshold : Int} {trace : List (Fleet × Action)} {last : Fleet}
    (run : Run (system staleThreshold) trace last) :
    (Meets BeatsInTime trace → Throughout (ReportedActive staleThreshold) trace last) ∧
      (0 ≤ staleThreshold →
        Throughout (ReportedActive staleThreshold) trace last → Meets BeatsInTime trace) := by
  constructor
  · intro inTime
    have sound := run.throughout inTime (fun _ => sound_initial)
      (fun _ _ _ taken inTime sound => Sound.step sound taken inTime)
    exact ⟨fun entry member => (sound.1 entry member).reportedActive, sound.2.reportedActive⟩
  · intro nonneg
    refine (run.throughout_iff_meets (fun _ _ => True) (Sound staleThreshold)
      (fun _ _ => trivial) (fun _ => sound_initial) ?_ (fun _ => Sound.reportedActive) ?_).mp
    · exact fun s a s' taken _ inTime sound => Sound.step sound taken inTime
    · exact fun s a s' taken _ sound reported => sound.beatsInTime nonneg taken reported

instance (s : Fleet) : DecidablePred s.BeatsInTime
  | .touchHeartbeat id => inferInstanceAs (Decidable (id ∈ s.live → id ∉ s.listed))
  | .tick _ | .insertWorker _ _ | .seedHeartbeat _ | .renewLeases _ _ | .markDeadWorkers
  | .deregisterWorker _ => isTrue trivial

/-- An empty database at time zero. -/
def idle : Fleet := ⟨0, .migrated [], [], [], []⟩

theorem idle_initial (staleThreshold : Int) : (system staleThreshold).initial idle :=
  ⟨List.nodup_nil, rfl, rfl, rfl⟩

/-- Worker `1` beats every twenty seconds. Worker `2` falls silent, and a sweep takes it out of
service. -/
def oneFallsSilent : List Action :=
  [.insertWorker 1 "first", .insertWorker 2 "second", .seedHeartbeat 1, .seedHeartbeat 2,
    .tick 20000000, .touchHeartbeat 1, .tick 20000000, .markDeadWorkers, .touchHeartbeat 1]

theorem reported_active_oneFallsSilent :
    ∃ trace last, Run (system 30000000000) trace last ∧
      Throughout (ReportedActive 30000000000) trace last ∧ last.live = [2, 1] ∧
        last.db.workerStatus 1 = some .active ∧ last.db.workerStatus 2 = some .offline := by
  obtain ⟨trace, last, run, inTime, statuses⟩ :=
    exists_run_of_execute (system 30000000000) oneFallsSilent idle
      (fun trace last => (∀ entry ∈ trace, entry.1.BeatsInTime entry.2) ∧ last.live = [2, 1] ∧
        last.db.workerStatus 1 = some .active ∧ last.db.workerStatus 2 = some .offline)
      (idle_initial _) (by decide)
  exact ⟨trace, last, run, (reported_active_iff run).1 inTime, statuses⟩

/-- The only worker is silent for forty seconds, and a sweep comes before its next heartbeat. -/
def resumesTooLate : List Action :=
  [.insertWorker 1 "first", .seedHeartbeat 1, .tick 40000000, .markDeadWorkers, .touchHeartbeat 1]

theorem resumed_worker_offline :
    ¬ ∀ (staleThreshold : Int) (trace : List (Fleet × Action)) (last : Fleet),
      Run (system staleThreshold) trace last →
        Throughout (ReportedActive staleThreshold) trace last := by
  intro claim
  obtain ⟨trace, last, run, member, beat, status⟩ :=
    exists_run_of_execute (system 30000000000) resumesTooLate idle
      (fun _ last => 1 ∈ last.live ∧ last.db.lastSeen 1 = some last.now ∧
        last.db.workerStatus 1 = some .offline)
      (idle_initial _) (by decide)
  have reported := (claim 30000000000 trace last run).2
  have active := reported 1 member last.now beat (Int.sub_le_self _ (by decide))
  rw [status] at active
  cases active

end Fleet

end JobScheduler
