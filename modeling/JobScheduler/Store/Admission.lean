import JobScheduler.Store.Disjoint

/-!
# The limit of a queue, row by row

In `Claimers` a budget `SELECT` that finds the row of the queue free counts the active jobs and
locks the row in one step. Here it counts in one step and takes the row in a later one, with room
for others between the two, and the claim `UPDATE` takes its rows one by one. The limit is kept on
the same condition: when a claim takes the row of the queue, no more jobs are active than it has
counted (`claims_within_limit`).
-/

set_option autoImplicit false

namespace JobScheduler

open Relational Transition ReadCommitted

/-- The queue that a call claims from. -/
def StoreCall.claims? : StoreCall → Option UUID
  | .claimJobs _ queueId _ => some queueId
  | _ => none

/-- The active jobs that a waiting budget `SELECT` has counted. -/
def SessionPoint.counted? : SessionPoint → Option Nat
  | .locking active => some active
  | _ => none

theorem StoreCall.eq_claimJobs {call : StoreCall} {queueId : UUID}
    (claims : call.claims? = some queueId) :
    ∃ workerId leaseSeconds, call = .claimJobs workerId queueId leaseSeconds := by
  cases call with
  | claimJobs workerId queueId leaseSeconds =>
      cases claims
      exact ⟨workerId, leaseSeconds, rfl⟩
  | _ => cases claims

namespace Sessions

section Limit

variable (queueId : UUID) (limit : Int)

/-- The transactions claim from the queue, and take its row while no more jobs are active than they
have counted. -/
def CountsCurrent (s : Sessions) : SessionAction → Prop
  | .begin call _ => call.claims? = some queueId
  | .row tx => ∀ session ∈ s.txs[tx]?, ∀ active ∈ session.point.counted?,
      s.activeJobs queueId ≤ active
  | _ => True

instance (s : Sessions) : DecidablePred (s.CountsCurrent queueId)
  | .begin call _ => inferInstanceAs (Decidable (call.claims? = some queueId))
  | .row tx => inferInstanceAs (Decidable (∀ session ∈ s.txs[tx]?,
      ∀ active ∈ session.point.counted?, s.activeJobs queueId ≤ active))
  | .statement _ _ | .commit _ | .rollback _ => isTrue trivial

/-- The transaction has locked the row of the queue. -/
def HoldsQueue (s : Sessions) (tx : Nat) : Prop :=
  ∃ draft ∈ s.queues.drafts, draft.tx = tx ∧ draft.key = queueId

/-- A claim that has locked the row of the queue leaves the limit room for the rows that it has
rewritten and for those that it may still rewrite. Before, it has locked no job. -/
def Reserved (s : Sessions) (tx : Nat) : SessionPoint → Prop
  | .begun | .locking _ => s.jobs.held tx = 0
  | .budgeted budget => s.HoldsQueue queueId tx ∧
      (s.activeJobs queueId : Int) + s.jobs.held tx + budget ≤ limit ∧ 0 ≤ budget
  | .updating _ (some room) _ => s.HoldsQueue queueId tx ∧
      (s.activeJobs queueId : Int) + s.jobs.held tx + room ≤ limit
  | .updated _ => s.HoldsQueue queueId tx ∧
      (s.activeJobs queueId : Int) + s.jobs.held tx ≤ limit
  | .committed _ | .failed _ => True
  | _ => False

/-- The invariant: all transactions are claims from the queue, and what they have reserved is within
the limit. -/
structure Admits (s : Sessions) : Prop where
  orderly : s.Orderly
  locks : s.queues.Sound Queue.id
  limits : ∀ queue,
    queue ∈ s.queues.rows ∨ (∃ draft ∈ s.queues.drafts, draft.version = some queue) →
      queue.id = queueId → queue.concurrencyLimit = some limit
  claims : ∀ session ∈ s.txs, session.call.claims? = some queueId
  within : (s.activeJobs queueId : Int) ≤ limit
  reserved : ∀ tx session, s.txs[tx]? = some session →
    s.Reserved queueId limit tx session.point

/-! ## What a claim can do -/

/-- The outcomes of a step when all transactions are claims from the queue. -/
inductive ClaimMoves (s : Sessions) : SessionAction → Sessions → Prop where
  | began (call : StoreCall) (now : Timestamptz) :
      ClaimMoves s (.begin call now) { s with txs := s.txs ++ [⟨call, now, .begun⟩] }
  | moved {a : SessionAction} (tx : Nat) (session : Session) (point : SessionPoint)
      (found : s.txs[tx]? = some session)
      (keeps : s.Reserved queueId limit tx session.point → s.Reserved queueId limit tx point) :
      ClaimMoves s a (s.put tx session point)
  | locked (tx : Nat) (session : Session) (active : Nat) (queue : Queue)
      (found : s.txs[tx]? = some session) (before : session.point = .locking active)
      (handled : s.queues.handle Queue.id ⟨fun q => q.id = queueId, false⟩ tx queueId =
        .takes queue) :
      ClaimMoves s (.row tx)
        { s.put tx session
            (.budgeted (max (queue.concurrencyLimit.getD 2147483647 - active) 0)) with
          queues := s.queues.write tx queueId (some queue) }
  | wrote (tx : Nat) (session : Session) (id : UUID) (rest : List UUID) (room : Option Nat)
      (returned : List Job) (job : Job) (found : s.txs[tx]? = some session)
      (before : session.point = .updating (id :: rest) room returned) (left : room ≠ some 0) :
      ClaimMoves s (.row tx)
        { s.put tx session (.updating rest (room.map (· - 1)) (returned ++ [job])) with
          jobs := s.jobs.write tx id (some job) }
  | committed (tx : Nat) (session : Session) (returned : List Job)
      (found : s.txs[tx]? = some session) (ready : session.ready = some returned) :
      ClaimMoves s (.commit tx) (s.finish tx session returned)
  | failed {a : SessionAction} (tx : Nat) (session : Session) (error : Option StoreError)
      (found : s.txs[tx]? = some session) : ClaimMoves s a (s.abort tx session error)

end Limit

variable {queueId : UUID} {limit : Int} {s s' : Sessions} {a : SessionAction}

theorem statement_claims {tx : Nat} {rank : UUID → Nat}
    (claims : ∀ session ∈ s.txs, session.call.claims? = some queueId)
    (taken : s.statement tx rank = some s') :
    ClaimMoves queueId limit s (.statement tx rank) s' := by
  cases found : s.txs[tx]? with
  | none =>
      simp only [statement, found] at taken
      cases taken
  | some session =>
      obtain ⟨workerId, leaseSeconds, call⟩ :=
        StoreCall.eq_claimJobs (claims session (List.mem_of_getElem? found))
      obtain ⟨_, now, point⟩ := session
      dsimp only at call
      subst call
      cases point with
      | begun =>
          simp only [statement, found] at taken
          split at taken
          · cases taken
            exact .moved tx _ _ found id
          · cases taken
            exact .failed tx _ _ found
      | budgeted budget =>
          simp only [statement, found] at taken
          split at taken
          · cases taken
          next positive =>
            cases taken
            refine .moved tx _ _ found ?_
            rintro ⟨holds, room, _⟩
            exact ⟨holds, by omega⟩
      | _ =>
          simp only [statement, found] at taken
          cases taken

theorem row_claims {tx : Nat}
    (claims : ∀ session ∈ s.txs, session.call.claims? = some queueId)
    (taken : s.row tx = some s') : ClaimMoves queueId limit s (.row tx) s' := by
  cases found : s.txs[tx]? with
  | none =>
      simp only [row, found] at taken
      cases taken
  | some session =>
      obtain ⟨workerId, leaseSeconds, call⟩ :=
        StoreCall.eq_claimJobs (claims session (List.mem_of_getElem? found))
      obtain ⟨_, now, point⟩ := session
      dsimp only at call
      subst call
      cases point with
      | locking active =>
          simp only [row, found] at taken
          split at taken
          · cases taken
          · cases taken
            exact .failed tx _ _ found
          next queue handled =>
            cases taken
            exact .locked tx _ active queue found rfl handled
      | deleting letters =>
          -- no claim gets here
          cases letters with
          | nil =>
              simp only [row, found] at taken
              cases taken
              exact .moved tx _ _ found False.elim
          | cons letter rest =>
              simp only [row, found] at taken
              cases taken
      | updating keys room returned =>
          have spent : s.Reserved queueId limit tx (.updating keys room returned) →
              s.Reserved queueId limit tx (.updated returned) := by
            intro reserved
            cases room with
            | none => exact reserved.elim
            | some left => exact ⟨reserved.1, by have := reserved.2; omega⟩
          cases keys with
          | nil =>
              simp only [row, found] at taken
              cases taken
              exact .moved tx _ _ found spent
          | cons id rest =>
              by_cases full : room = some 0
              · subst full
                simp only [row, found] at taken
                cases taken
                exact .moved tx _ _ found spent
              · simp only [row, found] at taken
                split at taken
                · cases taken
                · cases taken
                  refine .moved tx _ _ found ?_
                  cases room <;> exact fun reserved => reserved
                · cases taken
                  exact .wrote tx _ id rest room returned _ found rfl full
      | _ =>
          simp only [row, found] at taken
          cases taken

/-- **Every step is one of the moves.** -/
theorem step_claims (claims : ∀ session ∈ s.txs, session.call.claims? = some queueId)
    (taken : s.step a = some s') : ClaimMoves queueId limit s a s' := by
  cases a with
  | begin call now =>
      cases taken
      exact .began call now
  | statement tx rank => exact statement_claims claims taken
  | row tx => exact row_claims claims taken
  | commit tx =>
      simp only [step] at taken
      split at taken
      · cases taken
      next session found =>
        obtain ⟨returned, ready, rfl⟩ := Option.map_eq_some_iff.mp taken
        exact .committed tx session returned found ready
  | rollback tx =>
      simp only [step] at taken
      split at taken
      · cases taken
      next session found =>
        split at taken
        · cases taken
        · cases taken
          exact .failed tx session none found

/-! ## What is reserved -/

/-- One transaction at a time has the row of the queue. -/
theorem Admits.sole (inv : Admits queueId limit s) {tx other : Nat}
    (holds : s.HoldsQueue queueId tx) (holds' : s.HoldsQueue queueId other) : other = tx := by
  obtain ⟨draft, member, rfl, key⟩ := holds
  obtain ⟨draft', member', rfl, key'⟩ := holds'
  rw [inv.locks.draft_unique member' member (key'.trans key.symm)]

/-- A claim that may commit has rewritten no more rows than the limit leaves room for. -/
theorem Reserved.spent {tx : Nat} {session : Session} {returned : List Job}
    (reserved : s.Reserved queueId limit tx session.point)
    (ready : session.ready = some returned) :
    s.HoldsQueue queueId tx ∧ (s.activeJobs queueId : Int) + s.jobs.held tx ≤ limit := by
  obtain ⟨call, now, point⟩ := session
  unfold Session.ready at ready
  cases point with
  | budgeted budget =>
      obtain ⟨holds, room, positive⟩ := reserved
      exact ⟨holds, by omega⟩
  | updated rows => exact reserved
  | filed rows => exact reserved.elim
  | _ => cases ready

theorem Reserved.kept {tx : Nat} {point : SessionPoint}
    (reserved : s.Reserved queueId limit tx point) (held : s'.jobs.held tx = s.jobs.held tx)
    (queue : s.HoldsQueue queueId tx → s'.HoldsQueue queueId tx ∧
      s'.activeJobs queueId = s.activeJobs queueId) : s'.Reserved queueId limit tx point := by
  cases point with
  | begun | locking => exact held.trans reserved
  | budgeted budget =>
      obtain ⟨holds, room⟩ := reserved
      obtain ⟨holds', same⟩ := queue holds
      exact ⟨holds', by rw [held, same]; exact room⟩
  | updating keys room returned =>
      cases room with
      | none => exact reserved.elim
      | some left =>
          obtain ⟨holds, room⟩ := reserved
          obtain ⟨holds', same⟩ := queue holds
          exact ⟨holds', by rw [held, same]; exact room⟩
  | updated returned =>
      obtain ⟨holds, room⟩ := reserved
      obtain ⟨holds', same⟩ := queue holds
      exact ⟨holds', by rw [held, same]; exact room⟩
  | committed | failed => trivial
  | checked | deleting | deleted | filed => exact reserved.elim

theorem reserved_put {tx : Nat} {session : Session} {point : SessionPoint}
    (txs : s'.txs = (s.put tx session point).txs) (own : s'.Reserved queueId limit tx point)
    (others : ∀ index found, index ≠ tx → s.txs[index]? = some found →
      s'.Reserved queueId limit index found.point) :
    ∀ index found, s'.txs[index]? = some found → s'.Reserved queueId limit index found.point := by
  intro index found found'
  rw [txs] at found'
  rcases cases_put found' with ⟨rfl, rfl⟩ | ⟨different, before⟩
  · exact own
  · exact others index found different before

theorem claims_put {tx : Nat} {session : Session} {point : SessionPoint}
    (found : s.txs[tx]? = some session)
    (claims : ∀ session ∈ s.txs, session.call.claims? = some queueId) :
    ∀ other ∈ (s.put tx session point).txs, other.call.claims? = some queueId := by
  intro other member
  rcases List.mem_or_eq_of_mem_set member with old | rfl
  · exact claims other old
  · exact claims session (List.mem_of_getElem? found)

/-! ## The limit -/

/-- **Claims are admitted within the limit.** -/
theorem admits_step (taken : s.step a = some s') (counts : s.CountsCurrent queueId a)
    (inv : Admits queueId limit s) : Admits queueId limit s' := by
  have orderly := orderly_step (step_moves taken) inv.orderly
  have moves : ClaimMoves queueId limit s a s' := step_claims inv.claims taken
  cases moves with
  | began call now =>
      refine ⟨orderly, inv.locks, inv.limits, ?_, inv.within, ?_⟩
      · intro session member
        rcases List.mem_append.mp member with old | new
        · exact inv.claims session old
        · rw [List.mem_singleton.mp new]
          exact counts
      · intro tx session found'
        rcases cases_began found' with found | ⟨rfl, new⟩
        · exact inv.reserved tx session found
        · -- a transaction that begins has locked nothing
          refine List.countP_eq_zero.mpr fun draft member own => ?_
          exact inv.orderly.attended.unbegun new draft member (of_decide_eq_true own)
  | moved tx session point found keeps =>
      refine ⟨orderly, inv.locks, inv.limits, claims_put found inv.claims, inv.within, ?_⟩
      refine reserved_put rfl ?_ fun index other _ found' => ?_
      · exact (keeps (inv.reserved tx session found)).kept rfl fun holds => ⟨holds, rfl⟩
      · exact (inv.reserved index other found').kept rfl fun holds => ⟨holds, rfl⟩
  | locked tx session active queue found before handled =>
      obtain ⟨free, newest, selected⟩ := Versions.handle_takes handled
      have ofQueue : queue.id = queueId := of_decide_eq_true selected
      have limited := inv.limits queue (Versions.mem_of_newest newest) ofQueue
      have idle : s.jobs.held tx = 0 := by
        have reserved := inv.reserved tx session found
        rw [before] at reserved
        exact reserved
      have counted : s.activeJobs queueId ≤ active := by
        refine counts session found active ?_
        rw [before]
        rfl
      have within := inv.within
      refine ⟨orderly, inv.locks.write free ?_, ?_, claims_put found inv.claims, within, ?_⟩
      · rintro row ⟨⟩
        exact ofQueue
      · rintro other (old | ⟨draft, member, version⟩)
        · exact inv.limits other (.inl old)
        · rcases Versions.cases_drafts_write member with rfl | ⟨old, _⟩
          · cases version
            exact fun _ => limited
          · exact inv.limits other (.inr ⟨draft, old, version⟩)
      · refine reserved_put rfl ⟨⟨_, List.mem_cons_self, rfl, rfl⟩, ?_, by omega⟩ ?_
        · show (s.activeJobs queueId : Int) + s.jobs.held tx + _ ≤ limit
          rw [limited, Option.getD_some, idle]
          omega
        · intro index other different found'
          refine (inv.reserved index other found').kept rfl ?_
          rintro ⟨draft, member, rfl, key⟩
          exact ⟨⟨draft, Versions.mem_drafts_write member different, rfl, key⟩, rfl⟩
  | wrote tx session id rest room returned job found before left =>
      refine ⟨orderly, inv.locks, inv.limits, claims_put found inv.claims, inv.within, ?_⟩
      refine reserved_put rfl ?_ fun index other different found' => ?_
      · have reserved := inv.reserved tx session found
        rw [before] at reserved
        cases room with
        | none => exact reserved.elim
        | some more =>
            have positive : more ≠ 0 := fun none' => left (by rw [none'])
            have locked := @Versions.held_write_le _ _ _ s.jobs tx id (some job)
            obtain ⟨holds, bound⟩ := reserved
            refine ⟨holds, ?_⟩
            show (s.activeJobs queueId : Int) + (s.jobs.write tx id (some job)).held tx +
              ((more - 1 : Nat) : Int) ≤ limit
            omega
      · exact (inv.reserved index other found').kept (Versions.held_write_of_ne different)
          fun holds => ⟨holds, rfl⟩
  | committed tx session returned found ready =>
      obtain ⟨holds, bound⟩ := (inv.reserved tx session found).spent ready
      refine ⟨orderly, inv.locks.publish tx, ?_, claims_put found inv.claims, ?_, ?_⟩
      · rintro queue (published | ⟨draft, member, version⟩)
        · rcases inv.locks.mem_seenBy.mp published with ⟨old, _⟩ | ⟨draft, member, _, version⟩
          · exact inv.limits queue (.inl old)
          · exact inv.limits queue (.inr ⟨draft, member, version⟩)
        · exact inv.limits queue (.inr ⟨draft, (Versions.of_mem_release member).1, version⟩)
      · have grows := inv.orderly.sound.countP_publish_le tx fun job =>
          job.queueId = queueId ∧ job.status.Active
        refine le_trans ?_ bound
        exact_mod_cast grows
      · refine reserved_put rfl trivial fun index other different found' => ?_
        refine (inv.reserved index other found').kept (Versions.countP_release_of_ne different) ?_
        exact fun holds' => absurd (inv.sole holds holds') different
  | failed tx session error found =>
      refine ⟨orderly, inv.locks.discard tx, ?_, claims_put found inv.claims, inv.within, ?_⟩
      · rintro queue (old | ⟨draft, member, version⟩)
        · exact inv.limits queue (.inl old)
        · exact inv.limits queue (.inr ⟨draft, (Versions.of_mem_release member).1, version⟩)
      · refine reserved_put rfl trivial fun index other different found' => ?_
        refine (inv.reserved index other found').kept (Versions.countP_release_of_ne different) ?_
        rintro ⟨draft, member, rfl, key⟩
        exact ⟨⟨draft, Versions.mem_drafts_release member different, rfl, key⟩, rfl⟩

end Sessions

/-- **No over-admission, row by row.** Let at most `limit` jobs of a queue with that limit be
active, and let the transactions be claims from it. If none of them takes the row of the queue when
more jobs are active than it has counted, at most `limit` jobs are active all the time. -/
theorem claims_within_limit {queueId : UUID} {limit : Int} {s last : Sessions}
    {trace : List (Sessions × SessionAction)} (start : sessions.initial s)
    (unique : (s.queues.rows.map (·.id)).Nodup)
    (limited : ∀ queue ∈ s.queues.rows, queue.id = queueId → queue.concurrencyLimit = some limit)
    (within : (s.activeJobs queueId : Int) ≤ limit) (path : Path sessions s trace last)
    (counts : Meets (Sessions.CountsCurrent queueId) trace) :
    Throughout (fun s => (s.activeJobs queueId : Int) ≤ limit) trace last := by
  have admits : s.Admits queueId limit := by
    have orderly := Sessions.orderly_initial start
    obtain ⟨_, _, _, noQueues, noTxs⟩ := start
    refine ⟨orderly, ⟨unique, ?_, ?_⟩, ?_, ?_, within, ?_⟩
    · rw [noQueues]
      exact List.nodup_nil
    · rw [noQueues]
      exact fun _ member => absurd member List.not_mem_nil
    · rintro queue (row | ⟨draft, member, _⟩)
      · exact limited queue row
      · rw [noQueues] at member
        cases member
    · rw [noTxs]
      exact List.forall_mem_nil _
    · rw [noTxs]
      intro tx session found
      cases found
  have throughout := path.throughout counts admits fun _ _ _ taken condition inv =>
    Sessions.admits_step taken condition inv
  exact ⟨fun entry member => (throughout.1 entry member).within, throughout.2.within⟩

/-! ## Two claims from a queue with one slot -/

/-- The queue of `oneQueued` with a limit of one, and a second job. -/
def oneAtMost : Sessions :=
  { oneQueued with
    jobs := ⟨oneQueued.jobs.rows ++
      [Job.inserted 0 6 ⟨3, 0, .null, none, some 0, .queued, 3, none, none⟩], []⟩
    queues := ⟨[⟨3, 2, "queue", "queue", none, 0, some 1, false, 0, 0⟩], []⟩ }

/-- Both count before the first one takes the row of the queue, and the first one loses its
connection. -/
def secondTakesOver : List SessionAction :=
  [.begin (.claimJobs 5 3 30) 1, .begin (.claimJobs 7 3 30) 1, .statement 0 fun _ => 0,
    .statement 1 fun _ => 0, .row 0, .rollback 0, .row 1, .statement 1 fun _ => 0, .row 1, .row 1,
    .commit 1]

theorem claims_within_limit_secondTakesOver :
    ∃ trace last, Path sessions oneAtMost trace last ∧ last.activeJobs 3 = 1 ∧
      Throughout (fun s => (s.activeJobs 3 : Int) ≤ 1) trace last := by
  obtain ⟨trace, last, path, claimed, counts⟩ :=
    exists_path_of_execute sessions secondTakesOver oneAtMost
      (fun trace last => last.activeJobs 3 = 1 ∧
        ∀ entry ∈ trace, entry.1.CountsCurrent 3 entry.2) (by decide)
  refine ⟨trace, last, path, claimed, ?_⟩
  exact claims_within_limit ⟨by decide, rfl, rfl, rfl, rfl⟩ (by decide) (by decide) (by decide) path
    counts

end JobScheduler
