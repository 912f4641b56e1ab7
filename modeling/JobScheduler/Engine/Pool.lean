import JobScheduler.Domain.Models
import JobScheduler.Transition.Run
import Mathlib.Data.List.Nodup

/-!
# The pool of an engine

The goroutine of `Run` polls, claims and dispatches; each dispatched entry has a goroutine of its
own, and `shutdown` starts one more that waits for them (`internal/worker/engine.go`). They share
the channel `sem`, which is a buffer of `MaxConcurrency` slots, and the counter of the `WaitGroup`.
Here they interleave between any two operations on these: a slot is taken before the counter goes
up, and given back before it goes down. The store may answer with any lists and errors, an
execution may take any time, and the context may be cancelled at any moment.

A claim is not limited by the free slots, so `pollOnce` may wait for one in the middle of a list,
also while the context is cancelled. The entries that wait and the goroutines are together the
entries claimed so far, the slots taken are those of the goroutines that have not given theirs back
and of the one in `dispatch`, and likewise for the counter. It follows that no more than
`MaxConcurrency` executions are in progress and that none is lost or repeated (`pool_bounded`).
-/

set_option autoImplicit false

namespace JobScheduler

open Transition

/-! ## Goroutines -/

/-- An entry of a list that `ClaimJobs` returned to `pollOnce`, numbered in the order of the
claims. -/
structure Entry where
  ticket : Nat
  job : Job

/-- Where the goroutine of an entry is. -/
inductive GoPc where
  /-- Started, before the call of `executeJob`. -/
  | started
  /-- In `executeJob`. -/
  | executing
  /-- `executeJob` has returned; before `<-e.sem`. -/
  | returned
  /-- Before `e.wg.Done()`. -/
  | released
  | exited
deriving DecidableEq, Repr

namespace GoPc

/-- `executeJob` has been called. -/
def called : GoPc → Bool
  | .started => false
  | _ => true

/-- The call has returned. -/
def finished : GoPc → Bool
  | .started | .executing => false
  | _ => true

/-- The slot has not been given back. -/
def holdsSlot : GoPc → Bool
  | .started | .executing | .returned => true
  | _ => false

/-- `Done` has not been called. -/
def counted : GoPc → Bool
  | .exited => false
  | _ => true

theorem eq_exited {pc : GoPc} (exited : pc.counted = false) : pc = .exited := by
  cases pc with
  | exited => rfl
  | _ => cases exited

end GoPc

/-- The goroutine that `dispatch` starts for an entry. -/
structure Goroutine where
  entry : Entry
  pc : GoPc

/-- Where the goroutine of `Run` is. -/
inductive RunPc where
  /-- In `pollOnce`, before the test of `len(e.sem)`. -/
  | checking
  /-- In `ListActiveQueues`. -/
  | listing
  /-- Before the next of these queues. -/
  | looping (queues : List UUID)
  /-- In `ClaimJobs` on the queue. -/
  | claiming (queueId : UUID) (queues : List UUID)
  /-- Before the `dispatch` of the next of these entries, at `e.sem <- struct{}{}`. -/
  | dispatching (entries : List Entry) (queues : List UUID)
  /-- In the `dispatch` of the entry, before `e.wg.Add(1)`. -/
  | acquired (entry : Entry) (entries : List Entry) (queues : List UUID)
  /-- In the `dispatch` of the entry, before the `go` statement. -/
  | added (entry : Entry) (entries : List Entry) (queues : List UUID)
  /-- In the `select` of `pollLoop`. -/
  | selecting
  /-- In the `select` of `shutdown`. -/
  | draining
  /-- Past it. -/
  | releasing

namespace RunPc

/-- The claimed entries that have no goroutine yet. -/
def waiting : RunPc → List Entry
  | .dispatching entries _ => entries
  | .acquired entry entries _ | .added entry entries _ => entry :: entries
  | _ => []

/-- The slots taken for an entry without a goroutine. -/
def slots : RunPc → Nat
  | .acquired .. | .added .. => 1
  | _ => 0

/-- What the counter has for an entry without a goroutine. -/
def counted : RunPc → Nat
  | .added .. => 1
  | _ => 0

/-- `pollLoop` has returned. -/
def left : RunPc → Bool
  | .draining | .releasing => true
  | _ => false

theorem waiting_of_left {pc : RunPc} (left : pc.left = true) : pc.waiting = [] := by
  cases pc with
  | draining | releasing => rfl
  | _ => cases left

end RunPc

/-- The goroutine that `shutdown` starts for `e.wg.Wait()`. -/
inductive Waiter where
  | unstarted
  | waiting
  | completed
deriving DecidableEq, Repr

/-- An engine: `slots` is `len(e.sem)` and `counter` that of `e.wg`. The entries of all lists
returned so far are in `claimed`. -/
structure Pool where
  cancelled : Bool
  run : RunPc
  slots : Nat
  counter : Nat
  goroutines : List Goroutine
  waiter : Waiter
  claimed : List Entry

namespace Pool

/-! ## Steps -/

inductive Action where
  /-- The context is cancelled. -/
  | cancel
  /-- `<-ticker.C` in `pollLoop`. -/
  | tick
  /-- `<-ctx.Done()` in `pollLoop`, and on to `shutdown`. -/
  | leave
  /-- `ListActiveQueues` returns the queues or an error. -/
  | listQueues (reply : Option (List UUID))
  /-- `ClaimJobs` returns the jobs or an error. -/
  | claimJobs (reply : Option (List Job))
  /-- The goroutine of `Run` goes on. -/
  | proceed
  /-- A goroutine goes on. -/
  | advance (index : Nat)
  /-- `e.wg.Wait()` returns. -/
  | waitReturns
  /-- The `select` of `shutdown` ends, after the wait or by the timeout. -/
  | stopWaiting

/-- The entries of a list that `ClaimJobs` has returned. -/
def entriesOf (first : Nat) (jobs : List Job) : List Entry :=
  (jobs.zipIdx first).map fun numbered => ⟨numbered.2, numbered.1⟩

/-- A step of the goroutine of `Run` that waits for no reply. A send on a full `sem` blocks. -/
def proceed (maxConcurrency : Nat) (s : Pool) : Option Pool :=
  match s.run with
  | .checking =>
      if maxConcurrency ≤ s.slots then some { s with run := .selecting }
      else some { s with run := .listing }
  | .looping [] => some { s with run := .selecting }
  | .looping (queueId :: queues) =>
      if s.cancelled then some { s with run := .selecting }
      else some { s with run := .claiming queueId queues }
  | .dispatching [] queues => some { s with run := .looping queues }
  | .dispatching (entry :: entries) queues =>
      if s.slots < maxConcurrency then
        some { s with run := .acquired entry entries queues, slots := s.slots + 1 }
      else none
  | .acquired entry entries queues =>
      some { s with run := .added entry entries queues, counter := s.counter + 1 }
  | .added entry entries queues =>
      some { s with
        run := .dispatching entries queues
        goroutines := s.goroutines ++ [⟨entry, .started⟩] }
  | _ => none

/-- Put a goroutine elsewhere. -/
def move (s : Pool) (index : Nat) (g : Goroutine) (pc : GoPc) : Pool :=
  { s with goroutines := s.goroutines.set index { g with pc := pc } }

/-- A step of a goroutine. A receive from an empty `sem` blocks, and `Done` panics when the counter
is zero. -/
def advance (s : Pool) (index : Nat) : Option Pool :=
  match s.goroutines[index]? with
  | none => none
  | some g =>
      match g.pc with
      | .started => some (s.move index g .executing)
      | .executing => some (s.move index g .returned)
      | .returned =>
          if 0 < s.slots then some { s.move index g .released with slots := s.slots - 1 }
          else none
      | .released =>
          if 0 < s.counter then some { s.move index g .exited with counter := s.counter - 1 }
          else none
      | .exited => none

def step (maxConcurrency : Nat) (s : Pool) : Action → Option Pool
  | .cancel => some { s with cancelled := true }
  | .tick =>
      match s.run with
      | .selecting => some { s with run := .checking }
      | _ => none
  | .leave =>
      match s.run, s.cancelled with
      | .selecting, true => some { s with run := .draining, waiter := .waiting }
      | _, _ => none
  | .listQueues reply =>
      match s.run, reply with
      | .listing, none => some { s with run := .selecting }
      | .listing, some queues => some { s with run := .looping queues }
      | _, _ => none
  | .claimJobs reply =>
      match s.run, reply with
      | .claiming _ queues, none => some { s with run := .looping queues }
      | .claiming _ queues, some jobs =>
          let entries := entriesOf s.claimed.length jobs
          some { s with run := .dispatching entries queues, claimed := s.claimed ++ entries }
      | _, _ => none
  | .proceed => s.proceed maxConcurrency
  | .advance index => s.advance index
  | .waitReturns =>
      match s.waiter, s.counter with
      | .waiting, 0 => some { s with waiter := .completed }
      | _, _ => none
  | .stopWaiting =>
      match s.run with
      | .draining => some { s with run := .releasing }
      | _ => none

/-- An engine when `pollLoop` is called. -/
def start : Pool := ⟨false, .checking, 0, 0, [], .unstarted, []⟩

def system (maxConcurrency : Nat) : System Pool Action where
  initial s := s = start
  step := step maxConcurrency

/-! ## What the pool is for -/

/-- The calls of `executeJob` in progress. -/
def inProgress (s : Pool) : Nat := s.goroutines.countP fun g => g.pc = .executing

/-- The calls of `executeJob` for the entry. -/
def calls (s : Pool) (ticket : Nat) : Nat :=
  s.goroutines.countP fun g => g.entry.ticket = ticket ∧ g.pc.called

/-- Those that have returned. -/
def returns (s : Pool) (ticket : Nat) : Nat :=
  s.goroutines.countP fun g => g.entry.ticket = ticket ∧ g.pc.finished

/-- A bounded pool that loses no entry and repeats none. -/
structure Bounded (maxConcurrency : Nat) (s : Pool) : Prop where
  inProgress : s.inProgress ≤ maxConcurrency
  numbered : s.claimed.map (·.ticket) = List.range s.claimed.length
  own : ∀ g ∈ s.goroutines, g.entry ∈ s.claimed
  once : ∀ entry ∈ s.claimed, s.calls entry.ticket ≤ 1
  drained : s.waiter = .completed → ∀ entry ∈ s.claimed,
    s.calls entry.ticket = 1 ∧ s.returns entry.ticket = 1

/-- What the slots, the counter and the entries have to do with each other. -/
structure Sound (maxConcurrency : Nat) (s : Pool) : Prop where
  entries : (s.run.waiting ++ s.goroutines.map (·.entry)).Perm s.claimed
  numbered : s.claimed.map (·.ticket) = List.range s.claimed.length
  slots : s.slots = s.run.slots + s.goroutines.countP (·.pc.holdsSlot)
  bound : s.slots ≤ maxConcurrency
  counter : s.counter = s.run.counted + s.goroutines.countP (·.pc.counted)
  left : s.waiter ≠ .unstarted → s.run.left = true
  drained : s.waiter = .completed → s.goroutines.countP (·.pc.counted) = 0

/-! ## Replacing a goroutine -/

section Replacing

variable {α β : Type} {old new : α}

/-- How a count changes when one element is replaced. -/
theorem countP_set_add (holds : α → Bool) {items : List α} {index : Nat}
    (found : items[index]? = some old) :
    (items.set index new).countP holds + (holds old).toNat =
      items.countP holds + (holds new).toNat := by
  obtain ⟨bound, rfl⟩ := List.getElem?_eq_some_iff.mp found
  have among : (holds items[index]).toNat ≤ items.countP holds := by
    cases here : holds items[index] with
    | false => exact Nat.zero_le _
    | true => exact List.countP_pos_iff.mpr ⟨_, List.getElem_mem bound, here⟩
  have toNat : ∀ b : Bool, (if b = true then 1 else 0) = b.toNat := by decide
  rw [List.countP_set bound, toNat, toNat]
  omega

/-- A replacement that keeps a column. -/
theorem map_set_of_eq (column : α → β) (keeps : column new = column old) {items : List α}
    {index : Nat} (found : items[index]? = some old) :
    (items.set index new).map column = items.map column := by
  obtain ⟨bound, rfl⟩ := List.getElem?_eq_some_iff.mp found
  have here : index < (items.map column).length := by
    rwa [List.length_map]
  have same : column items[index] = (items.map column)[index] := (List.getElem_map column).symm
  rw [List.map_set, keeps, same, List.set_getElem_self here]

end Replacing

/-! ## Runs -/

section Steps

variable {maxConcurrency : Nat} {s s' : Pool} {action : Action}

/-- The entries of a new list are numbered on from those claimed before. -/
theorem numbered_entriesOf (numbered : s.claimed.map (·.ticket) = List.range s.claimed.length)
    (jobs : List Job) :
    (s.claimed ++ entriesOf s.claimed.length jobs).map (·.ticket) =
      List.range (s.claimed ++ entriesOf s.claimed.length jobs).length := by
  have fresh : (entriesOf s.claimed.length jobs).map (·.ticket) =
      List.range' s.claimed.length jobs.length := by
    rw [entriesOf, List.map_map, ← List.zipIdx_map_snd s.claimed.length jobs]
    rfl
  have length : (entriesOf s.claimed.length jobs).length = jobs.length := by
    rw [entriesOf, List.length_map, List.length_zipIdx]
  rw [List.map_append, numbered, fresh, List.length_append, length, List.range_add,
    List.range'_eq_map_range]

/-- The goroutine of `Run` goes where it has the same entries, slots and count. -/
theorem Sound.goTo (sound : Sound maxConcurrency s) {old new : RunPc} (here : s.run = old)
    (waiting : new.waiting = old.waiting) (slots : new.slots = old.slots)
    (counted : new.counted = old.counted) (left : new.left = old.left) :
    Sound maxConcurrency { s with run := new } := by
  subst here
  constructor
  case entries => exact waiting ▸ sound.entries
  case numbered => exact sound.numbered
  case slots => exact slots ▸ sound.slots
  case bound => exact sound.bound
  case counter => exact counted ▸ sound.counter
  case left => exact fun started => left.trans (sound.left started)
  case drained => exact sound.drained

/-- Before `pollLoop` has returned nothing waits for the executions. -/
theorem Sound.unstarted (sound : Sound maxConcurrency s) (polling : s.run.left = false) :
    s.waiter = .unstarted := by
  by_contra started
  rw [sound.left started] at polling
  cases polling

/-- `e.sem <- struct{}{}` in the `dispatch` of an entry. -/
theorem Sound.acquire (sound : Sound maxConcurrency s) {entry : Entry} {entries : List Entry}
    {queues : List UUID} (here : s.run = .dispatching (entry :: entries) queues)
    (free : s.slots < maxConcurrency) :
    Sound maxConcurrency
      { s with run := .acquired entry entries queues, slots := s.slots + 1 } := by
  have idle := sound.unstarted (by rw [here]; rfl)
  obtain ⟨perm, numbered, slots, bound, counter, left, drained⟩ := sound
  rw [here] at perm slots counter
  refine ⟨perm, numbered, ?_, free, counter, ?_, drained⟩
  · simp only [RunPc.slots] at slots ⊢
    omega
  · exact fun started => absurd idle started

/-- `e.wg.Add(1)` in the `dispatch` of an entry. -/
theorem Sound.add (sound : Sound maxConcurrency s) {entry : Entry} {entries : List Entry}
    {queues : List UUID} (here : s.run = .acquired entry entries queues) :
    Sound maxConcurrency
      { s with run := .added entry entries queues, counter := s.counter + 1 } := by
  have idle := sound.unstarted (by rw [here]; rfl)
  obtain ⟨perm, numbered, slots, bound, counter, left, drained⟩ := sound
  rw [here] at perm slots counter
  refine ⟨perm, numbered, slots, bound, ?_, ?_, drained⟩
  · simp only [RunPc.counted] at counter ⊢
    omega
  · exact fun started => absurd idle started

/-- The `go` statement in the `dispatch` of an entry: the goroutine takes over the slot and the
count. -/
theorem Sound.go (sound : Sound maxConcurrency s) {entry : Entry} {entries : List Entry}
    {queues : List UUID} (here : s.run = .added entry entries queues) :
    Sound maxConcurrency { s with
      run := .dispatching entries queues
      goroutines := s.goroutines ++ [⟨entry, .started⟩] } := by
  have idle := sound.unstarted (by rw [here]; rfl)
  obtain ⟨perm, numbered, slots, bound, counter, left, drained⟩ := sound
  rw [here] at perm slots counter
  constructor
  case entries =>
    refine List.Perm.trans ?_ perm
    simp only [RunPc.waiting, List.map_append, List.map_cons, List.map_nil, ← List.append_assoc]
    exact List.perm_append_singleton _ _
  case numbered => exact numbered
  case slots =>
    rw [List.countP_append, List.countP_singleton]
    simp only [RunPc.slots, GoPc.holdsSlot, if_true] at slots ⊢
    omega
  case bound => exact bound
  case counter =>
    rw [List.countP_append, List.countP_singleton]
    simp only [RunPc.counted, GoPc.counted, if_true] at counter ⊢
    omega
  case left => exact fun started => absurd idle started
  case drained =>
    intro completed
    rw [idle] at completed
    cases completed

/-- A step of the goroutine of `Run`. -/
theorem Sound.proceed (sound : Sound maxConcurrency s)
    (taken : s.proceed maxConcurrency = some s') : Sound maxConcurrency s' := by
  unfold Pool.proceed at taken
  split at taken
  next here =>
    split at taken
    · cases taken
      exact sound.goTo here rfl rfl rfl rfl
    · cases taken
      exact sound.goTo here rfl rfl rfl rfl
  next here =>
    cases taken
    exact sound.goTo here rfl rfl rfl rfl
  next here =>
    split at taken
    · cases taken
      exact sound.goTo here rfl rfl rfl rfl
    · cases taken
      exact sound.goTo here rfl rfl rfl rfl
  next here =>
    cases taken
    exact sound.goTo here rfl rfl rfl rfl
  next entry entries queues here =>
    split at taken
    next free =>
      cases taken
      exact sound.acquire here free
    · cases taken
  next entry entries queues here =>
    cases taken
    exact sound.add here
  next entry entries queues here =>
    cases taken
    exact sound.go here
  next => cases taken

/-- `ClaimJobs` returns a list, whose entries are to be dispatched. -/
theorem Sound.claim (sound : Sound maxConcurrency s) {queueId : UUID} {queues : List UUID}
    (here : s.run = .claiming queueId queues) (jobs : List Job) :
    Sound maxConcurrency { s with
      run := .dispatching (entriesOf s.claimed.length jobs) queues
      claimed := s.claimed ++ entriesOf s.claimed.length jobs } := by
  have idle := sound.unstarted (by rw [here]; rfl)
  obtain ⟨entries, numbered, slots, bound, counter, _, drained⟩ := sound
  rw [here] at entries slots counter
  refine ⟨?_, numbered_entriesOf numbered jobs, slots, bound, counter, ?_, drained⟩
  · exact List.perm_append_comm.trans (entries.append_right _)
  · exact fun started => absurd idle started

/-- A goroutine that has not exited moves, with its slot and its count. -/
theorem Sound.move (sound : Sound maxConcurrency s) {index slots counter : Nat} {g : Goroutine}
    {pc : GoPc} (found : s.goroutines[index]? = some g) (live : g.pc.counted = true)
    (freed : slots + g.pc.holdsSlot.toNat = s.slots + pc.holdsSlot.toNat) (fewer : slots ≤ s.slots)
    (done : counter + 1 = s.counter + pc.counted.toNat) :
    Sound maxConcurrency { s.move index g pc with slots := slots, counter := counter } := by
  have held : (s.move index g pc).goroutines.countP (·.pc.holdsSlot) + g.pc.holdsSlot.toNat =
      s.goroutines.countP (·.pc.holdsSlot) + pc.holdsSlot.toNat :=
    countP_set_add (fun g => g.pc.holdsSlot) found
  have counts : (s.move index g pc).goroutines.countP (·.pc.counted) + g.pc.counted.toNat =
      s.goroutines.countP (·.pc.counted) + pc.counted.toNat :=
    countP_set_add (fun g => g.pc.counted) found
  have same : (s.move index g pc).goroutines.map (·.entry) = s.goroutines.map (·.entry) :=
    map_set_of_eq (fun g => g.entry) (show Goroutine.entry ⟨g.entry, pc⟩ = g.entry from rfl) found
  have busy : 0 < s.goroutines.countP (·.pc.counted) :=
    List.countP_pos_iff.mpr ⟨g, List.mem_of_getElem? found, live⟩
  rw [live] at counts
  obtain ⟨entries, numbered, slotCount, bound, counterCount, left, drained⟩ := sound
  constructor
  case entries => exact same ▸ entries
  case numbered => exact numbered
  case slots =>
    dsimp only
    simp only [Pool.move] at held ⊢
    omega
  case bound => exact Nat.le_trans fewer bound
  case counter =>
    simp only [Pool.move, Bool.toNat_true] at counts ⊢
    omega
  case left => exact left
  case drained =>
    intro completed
    rw [drained completed] at busy
    exact absurd busy (Nat.lt_irrefl 0)

/-- A step of a goroutine. -/
theorem Sound.advance (sound : Sound maxConcurrency s) {index : Nat}
    (taken : s.advance index = some s') : Sound maxConcurrency s' := by
  unfold Pool.advance at taken
  split at taken
  · cases taken
  next g found =>
    split at taken
    next here =>
      cases taken
      exact sound.move found (by rw [here]; rfl) (by rw [here]; rfl) le_rfl rfl
    next here =>
      cases taken
      exact sound.move found (by rw [here]; rfl) (by rw [here]; rfl) le_rfl rfl
    next here =>
      split at taken
      next taken' =>
        cases taken
        refine sound.move found (by rw [here]; rfl) ?_ (Nat.sub_le _ _) rfl
        rw [here]
        exact Nat.sub_add_cancel taken'
      · cases taken
    next here =>
      split at taken
      next positive =>
        cases taken
        refine sound.move found (by rw [here]; rfl) (by rw [here]; rfl) le_rfl ?_
        exact Nat.sub_add_cancel positive
      · cases taken
    · cases taken

theorem sound_start : Sound maxConcurrency start := by
  constructor <;> simp [start, RunPc.waiting, RunPc.slots, RunPc.counted]

/-- Every step keeps the slots, the counter and the entries together. -/
theorem Sound.step (sound : Sound maxConcurrency s)
    (taken : Pool.step maxConcurrency s action = some s') : Sound maxConcurrency s' := by
  cases action with
  | cancel =>
      cases taken
      exact ⟨sound.entries, sound.numbered, sound.slots, sound.bound, sound.counter, sound.left,
        sound.drained⟩
  | tick =>
      simp only [Pool.step] at taken
      split at taken
      next here =>
        cases taken
        exact sound.goTo here rfl rfl rfl rfl
      · cases taken
  | leave =>
      simp only [Pool.step] at taken
      split at taken
      next here _ =>
        cases taken
        obtain ⟨entries, numbered, slots, bound, counter, _, _⟩ := sound
        rw [here] at entries slots counter
        exact ⟨entries, numbered, slots, bound, counter, fun _ => rfl, by rintro ⟨⟩⟩
      · cases taken
  | listQueues reply =>
      simp only [Pool.step] at taken
      split at taken
      next here =>
        cases taken
        exact sound.goTo here rfl rfl rfl rfl
      next queues here =>
        cases taken
        exact sound.goTo here rfl rfl rfl rfl
      · cases taken
  | claimJobs reply =>
      simp only [Pool.step] at taken
      split at taken
      next here =>
        cases taken
        exact sound.goTo here rfl rfl rfl rfl
      next jobs here =>
        cases taken
        exact sound.claim here jobs
      · cases taken
  | proceed => exact sound.proceed taken
  | advance index => exact sound.advance taken
  | waitReturns =>
      simp only [Pool.step] at taken
      split at taken
      next started zero =>
        cases taken
        have counter := sound.counter
        have left := sound.left (by rw [started]; decide)
        refine ⟨sound.entries, sound.numbered, sound.slots, sound.bound, counter, fun _ => left, ?_⟩
        intro _
        dsimp only
        omega
      · cases taken
  | stopWaiting =>
      simp only [Pool.step] at taken
      split at taken
      next here =>
        cases taken
        exact sound.goTo here rfl rfl rfl rfl
      · cases taken

/-- The goroutines are of different entries. -/
theorem Sound.nodup (sound : Sound maxConcurrency s) :
    (s.goroutines.map (·.entry.ticket)).Nodup := by
  have distinct : (s.claimed.map (·.ticket)).Nodup := sound.numbered ▸ List.nodup_range
  have all := ((sound.entries.map (·.ticket)).nodup_iff).mpr distinct
  rw [List.map_append, List.map_map] at all
  exact (List.nodup_append'.mp all).2.1

/-- After `pollLoop` every claimed entry has a goroutine. -/
theorem Sound.dispatched (sound : Sound maxConcurrency s) (left : s.run.left = true)
    {entry : Entry} (member : entry ∈ s.claimed) :
    ∃ g ∈ s.goroutines, g.entry = entry := by
  have nothing : s.run.waiting = [] := RunPc.waiting_of_left left
  have listed := sound.entries.mem_iff.mpr member
  rw [nothing, List.nil_append] at listed
  exact List.mem_map.mp listed

/-- There is at most one goroutine for an entry. -/
theorem Sound.countP_ticket_le (sound : Sound maxConcurrency s) (ticket : Nat)
    (holds : GoPc → Bool) :
    s.goroutines.countP (fun g => g.entry.ticket = ticket ∧ holds g.pc) ≤ 1 := by
  calc s.goroutines.countP (fun g => g.entry.ticket = ticket ∧ holds g.pc)
      ≤ s.goroutines.countP (fun g => g.entry.ticket == ticket) := by
        apply List.countP_mono_left
        intro g _ both
        simpa using (of_decide_eq_true both).1
    _ = (s.goroutines.map (·.entry.ticket)).count ticket := by
        rw [List.count, List.countP_map]
        rfl
    _ ≤ 1 := List.nodup_iff_count_le_one.mp sound.nodup ticket

theorem Sound.bounded (sound : Sound maxConcurrency s) : Bounded maxConcurrency s := by
  constructor
  case inProgress =>
    have among : s.inProgress ≤ s.goroutines.countP (·.pc.holdsSlot) := by
      apply List.countP_mono_left
      intro g _ executing
      rw [decide_eq_true_eq] at executing
      rw [executing]
      rfl
    have slots := sound.slots
    have bound := sound.bound
    omega
  case numbered => exact sound.numbered
  case own =>
    intro g member
    exact sound.entries.mem_iff.mp (List.mem_append_right _ (List.mem_map_of_mem member))
  case once => exact fun entry _ => sound.countP_ticket_le entry.ticket GoPc.called
  case drained =>
    intro completed entry member
    have left := sound.left (by rw [completed]; decide)
    obtain ⟨g, running, rfl⟩ := sound.dispatched left member
    have exited : g.pc.counted = false := by
      have none := List.countP_eq_zero.mp (sound.drained completed) g running
      simpa using none
    have last : g.pc = .exited := GoPc.eq_exited exited
    constructor
    · apply Nat.le_antisymm (sound.countP_ticket_le g.entry.ticket GoPc.called)
      exact List.countP_pos_iff.mpr ⟨g, running, by simp [last, GoPc.called]⟩
    · apply Nat.le_antisymm (sound.countP_ticket_le g.entry.ticket GoPc.finished)
      exact List.countP_pos_iff.mpr ⟨g, running, by simp [last, GoPc.finished]⟩

/-- No goroutine ever waits for its slot or finds the counter at zero: each one that has not exited
can go on. -/
theorem Sound.advances (sound : Sound maxConcurrency s) {index : Nat} {g : Goroutine}
    (found : s.goroutines[index]? = some g) (live : g.pc ≠ .exited) :
    (s.advance index).isSome = true := by
  have member := List.mem_of_getElem? found
  unfold Pool.advance
  rw [found]
  cases here : g.pc with
  | started | executing => simp [here]
  | returned =>
      have held : 0 < s.goroutines.countP (·.pc.holdsSlot) :=
        List.countP_pos_iff.mpr ⟨g, member, by rw [here]; rfl⟩
      have positive : 0 < s.slots := by
        rw [sound.slots]
        omega
      simp [here, positive]
  | released =>
      have counted : 0 < s.goroutines.countP (·.pc.counted) :=
        List.countP_pos_iff.mpr ⟨g, member, by rw [here]; rfl⟩
      have positive : 0 < s.counter := by
        rw [sound.counter]
        omega
      simp [here, positive]
  | exited => exact absurd here live

end Steps

/-- What the slots, the counter and the entries have to do with each other holds throughout. -/
theorem sound_throughout {maxConcurrency : Nat} {trace : List (Pool × Action)} {last : Pool}
    (run : Run (system maxConcurrency) trace last) :
    Throughout (Sound maxConcurrency) trace last := by
  have always : Meets (fun _ _ => True) trace := fun _ _ => trivial
  refine run.throughout always ?_ ?_
  · rintro _ rfl
    exact sound_start
  · exact fun _ _ _ taken _ sound => sound.step taken

/-- A job that is ready to run. -/
def readyJob (id : UUID) : Job :=
  ⟨id, 3, .claimed, 0, .null, none, none, 0, 3, none, none, none, none, none, none, none, none,
    none, 0, 0⟩

/-- One slot and a list of two jobs: the context is cancelled while the second waits for the slot,
and the wait of `shutdown` is over when both have been executed. -/
def cancelledInTheMiddle : List Action :=
  [.proceed, .listQueues (some [3, 4]), .proceed, .claimJobs (some [readyJob 5, readyJob 6]),
    .proceed, .proceed, .proceed, .advance 0, .cancel, .advance 0, .advance 0, .proceed, .advance 0,
    .proceed, .proceed, .proceed, .proceed, .leave, .advance 1, .advance 1, .advance 1, .advance 1,
    .waitReturns]

/-- **No goroutine is stuck.** In every run, each goroutine that has not exited can go on: its slot
is in the channel, and the counter is not zero. -/
theorem goroutines_go_on {maxConcurrency index : Nat} {trace : List (Pool × Action)} {last : Pool}
    {g : Goroutine} (run : Run (system maxConcurrency) trace last)
    (found : last.goroutines[index]? = some g) (live : g.pc ≠ .exited) :
    ∃ next, step maxConcurrency last (.advance index) = some next :=
  Option.isSome_iff_exists.mp ((sound_throughout run).2.advances found live)

end Pool

end JobScheduler
