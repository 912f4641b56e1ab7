import JobScheduler.Store.Serving
import JobScheduler.Store.ManualRetry
import JobScheduler.Transition.Simulation

/-!
# Calls served one at a time

When no transaction begins before the others have ended, and claims are made for registered workers,
the transactions of `Sessions` do what the methods of `Database` say: the two levels at which the
store calls are modelled agree.
-/

set_option autoImplicit false

namespace JobScheduler

open Relational Transition ReadCommitted

/-! ## The methods as a system -/

/-- A call with its time and its answer. -/
structure Reply where
  call : StoreCall
  now : Timestamptz
  answer : Except StoreError (List Job)

/-- A database and what it has answered, in order. -/
structure Answered where
  db : Database
  replies : List Reply

/-- The database performs a call as a whole. -/
def Answered.step (t : Answered) (a : StoreCall × Timestamptz × (UUID → Nat)) :
    Option Answered :=
  match a.1.perform a.2.1 a.2.2 t.db with
  | .ok (db', jobs) => some ⟨db', t.replies ++ [⟨a.1, a.2.1, .ok jobs⟩]⟩
  | .error error => some ⟨t.db, t.replies ++ [⟨a.1, a.2.1, .error error⟩]⟩

/-- The methods of the store, one at a time. -/
def methods : System Answered (StoreCall × Timestamptz × (UUID → Nat)) where
  initial t := t.replies = []
  step := Answered.step

/-- The transaction has ended with an answer. A rolled back connection gives none. -/
def SessionPoint.answers : SessionPoint → Bool
  | .committed _ | .failed (some _) => true
  | _ => false

/-- A transaction and a reply that tell its caller the same. The order of the rows is the
server's. -/
def Session.Gives (session : Session) (reply : Reply) : Prop :=
  session.call = reply.call ∧ session.now = reply.now ∧
    match session.point, reply.answer with
    | .committed returned, .ok jobs => returned.Perm jobs
    | .failed (some error), .error error' => error = error'
    | _, _ => False

namespace Sessions

open Versions (Alone Sole)

/-- A transaction begins when the others have ended, and a claim is for a registered worker: the
transactions do not check the foreign key of `worker_id`, which the method does. An engine
registers before it claims. -/
def SerialRegistered (db : Database) (s : Sessions) : SessionAction → Prop
  | .begin call _ => (∀ session ∈ s.txs, session.point.ended = true) ∧ call.Registered db
  | _ => True

instance (db : Database) (s : Sessions) : DecidablePred (SerialRegistered db s) := fun a => by
  cases a <;> unfold SerialRegistered <;> infer_instance

/-! ## The simulation -/

/-- The transactions have ended, or all but the last one. -/
inductive Standing (s : Sessions) (db : Database) : Prop where
  | idle (ended : ∀ session ∈ s.txs, session.point.ended = true) (jobIds : s.jobs.Sound Job.id)
      (letterIds : s.letters.Sound Letter.id) (queueIds : s.queues.Sound Queue.id)
      (noJobs : s.jobs.drafts = []) (noLetters : s.letters.drafts = [])
      (noQueues : s.queues.drafts = [])
  | serves (earlier : List Session) (session : Session) (txs : s.txs = earlier ++ [session])
      (ended : ∀ session ∈ earlier, session.point.ended = true)
      (running : session.point.ended = false) (registered : session.call.Registered db)
      (serving : Serving s.jobs s.letters s.queues db earlier.length session)

/-- The transactions as a database with the same rows has answered them. -/
structure Follows (first : Database) (s : Sessions) (t : Answered) : Prop where
  shows : s.Shows t.db
  workers : t.db.workers = first.workers
  given : List.Forall₂ Session.Gives (s.txs.filter (·.point.answers)) t.replies
  standing : s.Standing t.db

variable {s s' : Sessions} {db db' : Database} {tx : Nat}

/-- Whether a call is made by a registered worker depends on the workers. -/
theorem registered_congr (workers : db'.workers = db.workers)
    {call : StoreCall} (registered : call.Registered db) : call.Registered db' := by
  cases call with
  | claimJobs =>
      unfold StoreCall.Registered at registered ⊢
      rw [workers]
      exact registered
  | _ => trivial

theorem answers_of_running {point : SessionPoint} (running : point.ended = false) :
    point.answers = false := by
  cases point with
  | committed | failed => cases running
  | _ => rfl

/-- Only an open transaction takes a step. -/
theorem running_of_step {a : SessionAction} (taken : s.step a = some s')
    (acts : a.actor? = some tx) :
    ∃ session, s.txs[tx]? = some session ∧ session.point.ended = false := by
  have acted : ∀ other, a.actor? = some other → other = tx := by
    intro other acts'
    rw [acts] at acts'
    exact (Option.some.inj acts').symm
  cases step_moves taken with
  | began => cases acts
  | moved other session _ _ _ found change _ _ acts' =>
      obtain rfl := acted other (by rcases acts' with ⟨rank, rfl⟩ | rfl <;> rfl)
      exact ⟨session, found, change.running⟩
  | wrote other session _ _ _ _ _ found before =>
      obtain rfl := acted other rfl
      exact ⟨session, found, by rw [before]; rfl⟩
  | committed other session _ found ready =>
      obtain rfl := acted other rfl
      exact ⟨session, found, (rewritten_of_ready ready).1⟩
  | failed other session _ found running _ acts' =>
      obtain rfl := acted other (by rcases acts' with ⟨rank, rfl⟩ | rfl | rfl <;> rfl)
      exact ⟨session, found, running⟩

/-- It is the last one. -/
theorem Standing.acting (standing : s.Standing db) {a : SessionAction}
    (taken : s.step a = some s') (acts : a.actor? = some tx) :
    ∃ earlier session, s.txs = earlier ++ [session] ∧ tx = earlier.length ∧
      s.txs[tx]? = some session ∧ (∀ session ∈ earlier, session.point.ended = true) ∧
      session.point.ended = false ∧ session.call.Registered db ∧
      Serving s.jobs s.letters s.queues db tx session := by
  obtain ⟨acting, found, open'⟩ := running_of_step taken acts
  cases standing with
  | idle ended =>
      have over' := ended acting (List.mem_of_getElem? found)
      rw [open'] at over'
      cases over'
  | serves earlier session txs ended running registered serving =>
      have last : tx = earlier.length := by
        by_contra other
        have inside := (List.getElem?_eq_some_iff.mp found).1
        rw [txs, List.length_append, List.length_singleton] at inside
        rw [txs, List.getElem?_append_left (by omega)] at found
        have over' := ended acting (List.mem_of_getElem? found)
        rw [open'] at over'
        cases over'
      subst last
      refine ⟨earlier, session, txs, rfl, ?_, ended, running, registered, serving⟩
      rw [txs, List.getElem?_concat_length]

/-- The last transaction is moved. -/
theorem put_last {earlier : List Session} {session : Session} (txs : s.txs = earlier ++ [session])
    (point : SessionPoint) :
    (s.put earlier.length session point).txs = earlier ++ [{ session with point := point }] := by
  simp [put, txs]

/-- After the last transaction has ended nothing is locked. -/
theorem Serving.idle {earlier : List Session} {session session' : Session}
    (serving : Serving s.jobs s.letters s.queues db earlier.length session)
    (txs : s'.txs = earlier ++ [session'])
    (ended : ∀ session ∈ earlier, session.point.ended = true) (last : session'.point.ended = true)
    (jobs : s'.jobs.Sound Job.id ∧ s'.jobs.drafts = s.jobs.release earlier.length)
    (letters : s'.letters.Sound Letter.id ∧ s'.letters.drafts = s.letters.release earlier.length)
    (queues : s'.queues.Sound Queue.id ∧ s'.queues.drafts = s.queues.release earlier.length) :
    s'.Standing db' := by
  refine .idle ?_ jobs.1 letters.1 queues.1 (jobs.2.trans serving.ownJobs.release)
    (letters.2.trans serving.ownLetters.release) (queues.2.trans serving.ownQueues.release)
  intro acting member
  rw [txs] at member
  rcases List.mem_append.mp member with old | new
  · exact ended acting old
  · rw [List.mem_singleton.mp new]
    exact last

/-- A transaction that is rolled back leaves the tables as they were. -/
theorem Serving.aborted {earlier : List Session} {session : Session}
    (serving : Serving s.jobs s.letters s.queues db earlier.length session)
    (txs : s.txs = earlier ++ [session])
    (ended : ∀ session ∈ earlier, session.point.ended = true) (error : Option StoreError) :
    (s.abort earlier.length session error).Standing db :=
  serving.idle (put_last txs (.failed error)) ended rfl
    ⟨serving.ownJobs.sound.discard _, rfl⟩ ⟨serving.ownLetters.sound.discard _, rfl⟩
    ⟨serving.ownQueues.sound.discard _, rfl⟩

/-- The transactions that have answered, after a step of the last one. -/
theorem filter_answers {earlier : List Session} {session : Session}
    (txs : s.txs = earlier ++ [session]) :
    s.txs.filter (·.point.answers) = earlier.filter (·.point.answers) ++
      if session.point.answers then [session] else [] := by
  rw [txs, List.filter_append, List.filter_singleton]
  cases session.point.answers <;> rfl

/-- What the transactions before the open one have answered is everything so far. -/
theorem Follows.given_earlier {first : Database} {t : Answered} {earlier : List Session}
    {session : Session} (follows : Follows first s t) (txs : s.txs = earlier ++ [session])
    (running : session.point.ended = false) :
    List.Forall₂ Session.Gives (earlier.filter (·.point.answers)) t.replies := by
  have given := follows.given
  rw [filter_answers txs, answers_of_running running, if_neg Bool.false_ne_true,
    List.append_nil] at given
  exact given

/-- **A step of the open transaction.** -/
theorem Follows.turns {first : Database} {t : Answered} {earlier : List Session}
    {session : Session} (follows : Follows first s t) (txs : s.txs = earlier ++ [session])
    (ended : ∀ session ∈ earlier, session.point.ended = true)
    (running : session.point.ended = false) (registered : session.call.Registered t.db)
    (serving : Serving s.jobs s.letters s.queues t.db earlier.length session)
    (turn : Turn s s' t.db earlier.length session) :
    ∃ moves t', Path methods t moves t' ∧ Follows first s' t' := by
  have shows := follows.shows
  have before := follows.given_earlier txs running
  cases turn with
  | goesOn point jobs letters queues same rows running' serving' =>
      obtain ⟨keptJobs, keptLetters, keptQueues⟩ := rows
      have txs' : s'.txs = earlier ++ [{ session with point := point }] := by
        rw [same]
        exact put_last txs point
      refine ⟨[], t, .refl, ⟨?_, follows.workers, ?_, ?_⟩⟩
      · subst same
        exact ⟨keptJobs.trans shows.jobs, (congrArg _ keptLetters).trans shows.letters,
          keptQueues.trans shows.queues, shows.projects⟩
      · rw [filter_answers txs', answers_of_running running', if_neg Bool.false_ne_true,
          List.append_nil]
        exact before
      · subst same
        exact .serves earlier { session with point := point } txs' ended running' registered
          serving'
  | fails error same answer =>
      subst same
      have txs' : (s.abort earlier.length session (some error)).txs =
          earlier ++ [{ session with point := .failed (some error) }] := put_last txs _
      have taken : methods.step t (session.call, session.now, fun _ => 0) =
          some ⟨t.db, t.replies ++ [⟨session.call, session.now, .error error⟩]⟩ := by
        simp only [methods, Answered.step, answer]
      refine ⟨_, _, .single taken, ⟨?_, follows.workers, ?_, serving.aborted txs ended _⟩⟩
      · exact ⟨shows.jobs, shows.letters, shows.queues, shows.projects⟩
      · rw [filter_answers txs']
        exact List.rel_append before (.cons ⟨rfl, rfl, rfl⟩ .nil)

/-- **One step.** -/
theorem Follows.step {first : Database} {t : Answered} {a : SessionAction}
    (follows : Follows first s t) (serially : SerialRegistered first s a)
    (taken : s.step a = some s') :
    ∃ moves t', Path methods t moves t' ∧ Follows first s' t' := by
  have shows := follows.shows
  cases a with
  | begin call now =>
      cases taken
      obtain ⟨ended, registered⟩ := serially
      have txs' : ({ s with txs := s.txs ++ [⟨call, now, .begun⟩] } : Sessions).txs =
          s.txs ++ [⟨call, now, .begun⟩] := rfl
      refine ⟨[], t, .refl, ⟨?_, follows.workers, ?_, ?_⟩⟩
      · exact ⟨shows.jobs, shows.letters, shows.queues, shows.projects⟩
      · have silent : SessionPoint.begun.answers = false := rfl
        rw [filter_answers txs', silent, if_neg Bool.false_ne_true, List.append_nil]
        exact follows.given
      · refine .serves s.txs _ txs' ended rfl (registered_congr follows.workers registered) ?_
        cases follows.standing with
        | idle _ jobIds letterIds queueIds noJobs noLetters noQueues =>
            exact ⟨.start jobIds noJobs, .start letterIds noLetters, .start queueIds noQueues,
              Versions.seenBy_of_free noQueues, .begun call now noJobs noLetters noQueues⟩
        | serves earlier session txs _ running =>
            have over' := ended session (by rw [txs]; simp)
            rw [running] at over'
            cases over'
  | statement tx rank =>
      obtain ⟨earlier, session, txs, rfl, found, ended, running, registered, serving⟩ :=
        follows.standing.acting taken rfl
      exact follows.turns txs ended running registered serving
        (statement_turn found shows serving taken)
  | row tx =>
      obtain ⟨earlier, session, txs, rfl, found, ended, running, registered, serving⟩ :=
        follows.standing.acting taken rfl
      exact follows.turns txs ended running registered serving (row_turn found shows serving taken)
  | commit tx =>
      obtain ⟨earlier, session, txs, rfl, found, ended, running, registered, serving⟩ :=
        follows.standing.acting taken rfl
      simp only [Sessions.step, found] at taken
      obtain ⟨returned, ready, rfl⟩ := Option.map_eq_some_iff.mp taken
      obtain ⟨rank, db', answer, performs, same, shows', workers⟩ :=
        commit_answers shows serving registered ready
      have performed : methods.step t (session.call, session.now, rank) =
          some ⟨db', t.replies ++ [⟨session.call, session.now, .ok answer⟩]⟩ := by
        simp only [methods, Answered.step, performs]
      have txs' : (s.finish earlier.length session returned).txs =
          earlier ++ [{ session with point := .committed returned }] := put_last txs _
      have before := follows.given_earlier txs running
      refine ⟨_, _, .single performed, ⟨shows', workers.trans follows.workers, ?_, ?_⟩⟩
      · rw [filter_answers txs']
        exact List.rel_append before (.cons ⟨rfl, rfl, same⟩ .nil)
      · exact serving.idle txs' ended rfl ⟨serving.ownJobs.sound.publish _, rfl⟩
          ⟨serving.ownLetters.sound.publish _, rfl⟩ ⟨serving.ownQueues.sound.publish _, rfl⟩
  | rollback tx =>
      obtain ⟨earlier, session, txs, rfl, found, ended, running, registered, serving⟩ :=
        follows.standing.acting taken rfl
      simp only [Sessions.step, found, running] at taken
      cases taken
      have txs' : (s.abort earlier.length session none).txs =
          earlier ++ [{ session with point := .failed none }] := put_last txs _
      refine ⟨[], t, .refl, ⟨?_, follows.workers, ?_, serving.aborted txs ended _⟩⟩
      · exact ⟨shows.jobs, shows.letters, shows.queues, shows.projects⟩
      · have silent : (SessionPoint.failed none).answers = false := rfl
        rw [filter_answers txs', silent, if_neg Bool.false_ne_true, List.append_nil]
        exact follows.given_earlier txs running

end Sessions

/-- **The statements refine the methods.** When the store calls are served one at a time, the
tables are at each moment those of a database that has performed the calls as a whole, in the
same order, and each caller is told what the method tells it. -/
theorem served_serially (s last : Sessions) (db : Database)
    (trace : List (Sessions × SessionAction)) (initial : sessions.initial s)
    (letterIds : (s.letters.rows.map (·.id)).Nodup) (queueIds : (s.queues.rows.map (·.id)).Nodup)
    (shows : s.Shows db) (path : Path sessions s trace last)
    (serially : Meets (Sessions.SerialRegistered db) trace) :
    ∃ moves t, Path methods ⟨db, []⟩ moves t ∧ last.Shows t.db ∧
      List.Forall₂ Session.Gives (last.txs.filter (·.point.answers)) t.replies := by
  obtain ⟨jobIds, noJobs, noLetters, noQueues, noTxs⟩ := initial
  have sound : ∀ {α : Type} {key : α → UUID} {table : Versions UUID α},
      (table.rows.map key).Nodup → table.drafts = [] → table.Sound key := by
    intro α key table unique free
    refine ⟨unique, by rw [free]; exact List.nodup_nil, ?_⟩
    rw [free]
    intro draft member
    cases member
  have follows : Sessions.Follows db s ⟨db, []⟩ := by
    refine ⟨shows, rfl, ?_, ?_⟩
    · rw [noTxs]
      exact .nil
    · refine .idle ?_ (sound jobIds noJobs) (sound letterIds noLetters)
        (sound queueIds noQueues) noJobs noLetters noQueues
      rw [noTxs]
      intro session member
      cases member
  obtain ⟨moves, t, performs, follows'⟩ := path.simulated serially follows
    fun _ _ _ _ taken condition follows => follows.step condition taken
  exact ⟨moves, t, performs, follows'.shows, follows'.given⟩

/-! ## A job that is claimed, dead-lettered and retried -/

/-- The database of `oneQueued`, with its worker. -/
def oneQueuedDatabase : Database :=
  { Database.migrated [] with
    projects := oneQueued.projects
    queues := oneQueued.queues.rows
    workers := [⟨5, "worker", .active, 0, 0⟩]
    jobs := oneQueued.jobs.rows }

/-- Worker `5` claims the job and starts it, moves it to the dead letters, and an operator retries
it. A second retry is told that there is no such job, and a second claim loses its connection. -/
def oneRound : List SessionAction :=
  claimOne 0 5 1 ++ updateOne 1 (.setJobRunning 4) 2 ++
    ([.begin (.moveToDLQ 4 "boom" 3 7) 3, .statement 2 fun _ => 0, .row 2, .row 2,
      .statement 2 fun _ => 0, .commit 2] : List SessionAction) ++
    retryChecks 3 4 ++ retryWrites 3 1 ++ retryChecks 4 5 ++
    ([.begin (.claimJobs 5 3 30) 6, .statement 5 fun _ => 0, .rollback 5] : List SessionAction)

theorem served_serially_oneRound :
    ∃ trace last, Path sessions oneQueued trace last ∧
      Meets (Sessions.SerialRegistered oneQueuedDatabase) trace ∧
      (last.txs.filter (·.point.answers)).length = 5 ∧
      ∃ moves t, Path methods ⟨oneQueuedDatabase, []⟩ moves t ∧ last.Shows t.db ∧
        List.Forall₂ Session.Gives (last.txs.filter (·.point.answers)) t.replies := by
  obtain ⟨trace, last, path, serially, answered⟩ :=
    exists_path_of_execute sessions oneRound oneQueued
      (fun trace last =>
        (∀ entry ∈ trace, Sessions.SerialRegistered oneQueuedDatabase entry.1 entry.2) ∧
        (last.txs.filter (·.point.answers)).length = 5) (by decide)
  refine ⟨trace, last, path, serially, answered, ?_⟩
  exact served_serially oneQueued last oneQueuedDatabase trace ⟨by decide, rfl, rfl, rfl, rfl⟩
    (by decide) (by decide) ⟨rfl, rfl, rfl, rfl⟩ path serially

end JobScheduler
