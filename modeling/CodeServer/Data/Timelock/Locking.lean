import Mathlib.Algebra.Order.BigOperators.Group.List
import Mathlib.Logic.Relation
import CodeServer.Data.Timelock.Served

/-!
# Entry locks: one holder each, and every call can return

`GetTimelockByVault` takes a stale entry's write lock and holds it through the refetch until
its deferred `Unlock()`; the batch loop takes each hit entry's lock around one update. In
every run each entry's write lock is held by at most one call in flight, and it is taken
exactly when a call in flight holds it (`entry_lock_single_holder`).

No call waits for a lock while it holds one, and a call holding a lock never waits at all.
So in every reachable state with a call in flight some call can run its next region, and
that uses up part of the work the calls in flight have left (`Call.remaining`). From every
reachable state the calls in flight can all return, by steps that run calls only: no new
call, no tick of the clock, no eviction (`calls_in_flight_can_finish`).
-/

namespace CodeServer.Data.Timelock

/-- The entry whose write lock a call holds: from `cacheEntry.mu.Lock()` to the deferred
`Unlock()` in `GetTimelockByVault`, and from `Lock()` to `Unlock()` in the batch loop. -/
def Call.holds : Call → Option Nat
  | .getRecheck _ entry | .getFetch _ entry | .getUpdate _ entry _
  | .batchUpdate _ _ _ entry => some entry
  | _ => none

/-- The entry whose lock a call waits for before its next region: `RLock()` before the
freshness check, `Lock()` in both functions. -/
def Call.waitsFor : Call → Option Nat
  | .getCheck _ entry | .getLock _ entry | .batchLock _ _ _ entry => some entry
  | _ => none

/-- `1` when the call holds the write lock of the entry at `entry`. -/
def Call.holding (entry : Nat) (call : Call) : Nat := if call.holds = some entry then 1 else 0

/-- Whether the entry at `entry` exists with its write lock taken. -/
def System.writeLocked (s : System) (entry : Nat) : Bool :=
  s.entries[entry]?.any CacheEntry.writeLocked

/-- How many calls in flight hold the write lock of the entry at `entry`. -/
def System.holders (s : System) (entry : Nat) : Nat := (s.calls.map (Call.holding entry)).sum

/-- Each entry's write lock is held by one call in flight when it is taken, and by none when
it is free. -/
def Owned (s : System) : Prop := ∀ entry, s.holders entry = if s.writeLocked entry then 1 else 0

/-- The regions a call at this point still runs before it returns, at most: a batch runs
three per record it has not reached. -/
def Call.remaining : Call → Nat
  | .save _ => 1
  | .getStart _ => 6
  | .getCheck _ _ => 5
  | .getLock _ _ => 4
  | .getRecheck _ _ => 3
  | .getFetch _ _ => 2
  | .getUpdate _ _ _ => 1
  | .getMiss _ => 2
  | .getInsert _ _ => 1
  | .batchStart vaults => 3 * vaults.length + 2
  | .batchLoop _ pending => 3 * pending.length + 1
  | .batchLock _ pending _ _ => 3 * pending.length + 3
  | .batchUpdate _ pending _ _ => 3 * pending.length + 2
  | .batchInsert _ pending _ => 3 * pending.length + 2

/-- The work the calls in flight have left. -/
def System.remaining (s : System) : Nat := (s.calls.map Call.remaining).sum

/-! ## Sums over the calls in flight -/

theorem sum_map_set {α : Type} (f : α → Nat) (value : α) {list : List α} {index : Nat}
    {old : α} (here : list[index]? = some old) :
    ((list.set index value).map f).sum + f old = (list.map f).sum + f value := by
  induction list generalizing index with
  | nil => cases here
  | cons head tail inductionHypothesis =>
    cases index with
    | zero =>
      obtain rfl : head = old := by
        simpa only [List.getElem?_cons_zero, Option.some.injEq] using here
      simp only [List.set_cons_zero, List.map_cons, List.sum_cons]
      omega
    | succ index =>
      have shifted := inductionHypothesis (by simpa only [List.getElem?_cons_succ] using here)
      simp only [List.set_cons_succ, List.map_cons, List.sum_cons]
      omega

theorem sum_map_eraseIdx {α : Type} (f : α → Nat) {list : List α} {index : Nat} {old : α}
    (here : list[index]? = some old) :
    ((list.eraseIdx index).map f).sum + f old = (list.map f).sum := by
  induction list generalizing index with
  | nil => cases here
  | cons head tail inductionHypothesis =>
    cases index with
    | zero =>
      obtain rfl : head = old := by
        simpa only [List.getElem?_cons_zero, Option.some.injEq] using here
      simp only [List.eraseIdx_cons_zero, List.map_cons, List.sum_cons]
      omega
    | succ index =>
      have shifted := inductionHypothesis (by simpa only [List.getElem?_cons_succ] using here)
      simp only [List.eraseIdx_cons_succ, List.map_cons, List.sum_cons]
      omega

section Moves

/-! A step moves or finishes the call at `index` and may change the entries, never the other
calls: `t` is the state before the move with the entries changed. -/

variable {s : System} {index : Nat} {call : Call} (here : s.calls[index]? = some call)
include here

theorem holders_continueAt {t : System} (sameCalls : t.calls = s.calls) (next : Call)
    (entry : Nat) :
    (t.continueAt index next).holders entry + call.holding entry =
      s.holders entry + next.holding entry := by
  simp only [System.holders, System.continueAt, sameCalls]
  exact sum_map_set (Call.holding entry) next here

theorem holders_finishAt {t : System} {served : List Returned} (sameCalls : t.calls = s.calls)
    (entry : Nat) :
    (t.finishAt index served).holders entry + call.holding entry = s.holders entry := by
  simp only [System.holders, System.finishAt, sameCalls]
  exact sum_map_eraseIdx (Call.holding entry) here

theorem remaining_continueAt {t : System} (sameCalls : t.calls = s.calls) (next : Call) :
    (t.continueAt index next).remaining + call.remaining = s.remaining + next.remaining := by
  simp only [System.remaining, System.continueAt, sameCalls]
  exact sum_map_set Call.remaining next here

theorem remaining_finishAt {t : System} (sameCalls : t.calls = s.calls) (served : List Returned) :
    (t.finishAt index served).remaining + call.remaining = s.remaining := by
  simp only [System.remaining, System.finishAt, sameCalls]
  exact sum_map_eraseIdx Call.remaining here

/-- A call that moves on holding the same lock, or none, leaves every count of holders. -/
theorem holders_continueAt_of_holds {t : System} {next : Call} (sameCalls : t.calls = s.calls)
    (same : next.holds = call.holds) : (t.continueAt index next).holders = s.holders := by
  funext entry
  have shift := holders_continueAt here sameCalls next entry
  rw [Call.holding, Call.holding, same] at shift
  omega

/-- A call that moves on to hold no lock drops out of the count of holders. -/
theorem holders_continueAt_of_free {t : System} {next : Call} (sameCalls : t.calls = s.calls)
    (free : next.holds = none) (entry : Nat) :
    (t.continueAt index next).holders entry + call.holding entry = s.holders entry := by
  simpa [Call.holding, free] using holders_continueAt here sameCalls next entry

/-- A call that returns holding no lock leaves every count of holders. -/
theorem holders_finishAt_of_free {t : System} {served : List Returned}
    (sameCalls : t.calls = s.calls) (free : call.holds = none) :
    (t.finishAt index served).holders = s.holders := by
  funext entry
  have shift : (t.finishAt index served).holders entry + call.holding entry = s.holders entry :=
    holders_finishAt here sameCalls entry
  simpa [Call.holding, free] using shift

end Moves

theorem Call.remaining_pos (call : Call) : 0 < call.remaining := by
  cases call <;> exact Nat.succ_pos _

theorem Call.waitsFor_of_holds {call : Call} {entry : Nat} (holds : call.holds = some entry) :
    call.waitsFor = none := by
  cases call <;> first | rfl | cases holds

theorem holders_pos_iff {s : System} {entry : Nat} :
    0 < s.holders entry ↔ ∃ call ∈ s.calls, call.holds = some entry := by
  simp only [System.holders, Nat.pos_iff_ne_zero, ne_eq, List.sum_eq_zero_iff, List.mem_map,
    Call.holding, forall_exists_index, and_imp, forall_apply_eq_imp_iff₂, ite_eq_right_iff,
    one_ne_zero, imp_false, not_forall, Classical.not_imp, Decidable.not_not, exists_prop]

/-! ## Locks under the entry updates -/

theorem writeLocked_setLock {s : System} {entry : Nat} {current : CacheEntry} (locked : Bool)
    (found : s.entries[entry]? = some current) (other : Nat) :
    (s.setLock entry locked current).writeLocked other =
      if other = entry then locked else s.writeLocked other := by
  have inside := (List.getElem?_eq_some_iff.mp found).1
  by_cases same : other = entry
  · subst same
    simp [System.setLock, System.writeLocked, inside]
  · simp [System.setLock, System.writeLocked, same, List.getElem?_set_ne (Ne.symm same)]

theorem writeLocked_storeEntry (s : System) (entry : Nat) (record : Record) (other : Nat) :
    (s.storeEntry entry record).writeLocked other =
      if other = entry then false else s.writeLocked other := by
  by_cases same : other = entry
  · subst same
    simp only [System.storeEntry, System.writeLocked, List.getElem?_set, if_true]
    split <;> rfl
  · simp [System.storeEntry, System.writeLocked, same, List.getElem?_set_ne (Ne.symm same)]

/-- A newly allocated entry is free, so allocating one changes no lock. -/
theorem writeLocked_allocate {s t : System} {record : Record}
    (allocated : t.entries = s.entries ++ [⟨false, record, s.now⟩]) :
    t.writeLocked = s.writeLocked := by
  funext other
  simp only [System.writeLocked, allocated, List.getElem?_append]
  split
  · rfl
  · have outside : s.entries[other]? = none := List.getElem?_eq_none (by omega)
    cases offset : other - s.entries.length <;>
      simp only [List.getElem?_cons_zero, List.getElem?_cons_succ, List.getElem?_nil,
        Option.any_some, Option.any_none, outside]

/-! ## Ownership is kept by every step -/

section Owned

variable {s : System} (owned : Owned s)
include owned

theorem Owned.keep {s' : System} (locks : s'.writeLocked = s.writeLocked)
    (holders : s'.holders = s.holders) : Owned s' := by
  intro entry
  rw [locks, holders]
  exact owned entry

/-- A call takes a free entry's write lock and moves to a point that holds it. -/
theorem Owned.acquire {index entry : Nat} {call next : Call} {current : CacheEntry}
    (here : s.calls[index]? = some call) (free : call.holds = none)
    (found : s.entries[entry]? = some current) (unlocked : current.writeLocked = false)
    (takes : next.holds = some entry) :
    Owned ((s.setLock entry true current).continueAt index next) := by
  intro other
  have shift : ((s.setLock entry true current).continueAt index next).holders other +
      call.holding other = s.holders other + next.holding other :=
    holders_continueAt here rfl next other
  have locks : ((s.setLock entry true current).continueAt index next).writeLocked other =
      if other = entry then true else s.writeLocked other :=
    writeLocked_setLock true found other
  have before := owned other
  rw [locks]
  simp only [Call.holding, free, takes, reduceCtorEq, if_false, Option.some.injEq] at shift
  by_cases same : other = entry
  · subst same
    simp only [System.writeLocked, found, Option.any_some, unlocked, Bool.false_eq_true,
      if_false] at before
    simp only [if_true] at shift ⊢
    omega
  · simp only [same, if_false, Ne.symm same] at shift ⊢
    omega

/-- The one holder of an entry's write lock releases it. -/
theorem Owned.release {s' : System} {call : Call} {entry : Nat}
    (holders : ∀ other, s'.holders other + call.holding other = s.holders other)
    (locks : ∀ other, s'.writeLocked other = if other = entry then false else s.writeLocked other)
    (holds : call.holds = some entry) : Owned s' := by
  intro other
  have shift := holders other
  have before := owned other
  rw [locks]
  simp only [Call.holding, holds, Option.some.injEq] at shift
  by_cases same : other = entry
  · subst same
    simp only [if_true, Bool.false_eq_true, if_false] at shift ⊢
    split at before <;> omega
  · simp only [Ne.symm same, same, if_false] at shift ⊢
    omega

/-- Every step keeps `Owned`. -/
theorem step_owned {s' : System} (step : Step s s') : Owned s' := by
  cases step with
  | spawn request =>
    have start : request.start.holds = none := by cases request <;> rfl
    intro entry
    simpa [System.holders, System.writeLocked, Call.holding, start] using owned entry
  | tick | evict => exact owned
  | save index here =>
    exact owned.keep rfl (holders_finishAt_of_free here rfl rfl : (s.finishAt index []).holders = _)
  | getRetrieve index here =>
    exact owned.keep rfl (holders_continueAt_of_holds here rfl (by split <;> rfl))
  | getCheck index here found unlocked =>
    split
    · exact owned.keep rfl (holders_finishAt_of_free here rfl rfl)
    · exact owned.keep rfl (holders_continueAt_of_holds here rfl rfl)
  | getLock index here found unlocked => exact owned.acquire here rfl found unlocked rfl
  | getRecheck index here found =>
    split
    · exact owned.release (holders_finishAt here rfl) (writeLocked_setLock false found) rfl
    · exact owned.keep rfl (holders_continueAt_of_holds here rfl rfl)
  | getFetch index here => exact owned.keep rfl (holders_continueAt_of_holds here rfl rfl)
  | @getUpdate index vault entry fetched current here found =>
    cases fetched with
    | some record =>
      exact owned.release (holders_finishAt here rfl) (writeLocked_storeEntry s _ _) rfl
    | none => exact owned.release (holders_finishAt here rfl) (writeLocked_setLock false found) rfl
  | getMiss index here =>
    split
    · exact owned.keep rfl (holders_continueAt_of_holds here rfl rfl)
    · exact owned.keep rfl (holders_finishAt_of_free here rfl rfl)
  | getInsert index here inserted =>
    exact owned.keep (writeLocked_allocate rfl) (holders_finishAt_of_free here rfl rfl)
  | batchStart index here =>
    split
    · exact owned.keep rfl (holders_continueAt_of_holds here rfl rfl)
    · exact owned.keep rfl (holders_finishAt_of_free here rfl rfl)
  | batchRetrieve index here next =>
    exact owned.keep rfl (holders_continueAt_of_holds here rfl (by split <;> rfl))
  | batchLock index here found unlocked => exact owned.acquire here rfl found unlocked rfl
  | batchUpdate index here =>
    exact owned.release (holders_continueAt_of_free here rfl rfl) (writeLocked_storeEntry s _ _) rfl
  | batchInsert index here inserted =>
    exact owned.keep (writeLocked_allocate rfl) (holders_continueAt_of_holds here rfl rfl)
  | batchReturn index here => exact owned.keep rfl (holders_finishAt_of_free here rfl rfl)

end Owned

theorem Initial.owned {s : System} (initial : Initial s) : Owned s := by
  intro entry
  simp [System.holders, System.writeLocked, initial.calls, initial.entries]

theorem Run.owned {s : System} {trace : List System} (run : Run (s :: trace)) : Owned s := by
  generalize states : s :: trace = all at run
  induction run generalizing s trace with
  | start initial =>
    obtain ⟨rfl, -⟩ := List.cons.inj states
    exact initial.owned
  | step prior transition inductionHypothesis =>
    obtain ⟨rfl, -⟩ := List.cons.inj states
    exact step_owned (inductionHypothesis rfl) transition

/-- In every run, each entry's write lock is held by at most one call in flight, and it is
taken exactly when a call in flight holds it. -/
theorem entry_lock_single_holder {s : System} {trace : List System} (run : Run (s :: trace))
    (entry : Nat) :
    s.holders entry ≤ 1 ∧
      (s.writeLocked entry = true ↔ ∃ call ∈ s.calls, call.holds = some entry) := by
  rw [← holders_pos_iff, run.owned entry]
  cases s.writeLocked entry <;> simp

/-! ## Every call can return -/

theorem getByVaultBatch_length {store : String → Option Record} {vaults : List String}
    {records : List Record} (read : getByVaultBatch store vaults = some records) :
    records.length ≤ vaults.length := by
  induction vaults generalizing records with
  | nil =>
    cases read
    rfl
  | cons vault vaults inductionHypothesis =>
    simp only [getByVaultBatch] at read
    split at read
    · cases read
      have shorter := inductionHypothesis ‹_›
      split <;> simp only [List.length_cons] <;> omega
    · cases read

/-- A call in flight that waits for no lock, or for a free one, can run its next region, and
that uses up some of the work left. -/
theorem call_advances {s : System} (keyed : Keyed s) {index : Nat} {call : Call}
    (here : s.calls[index]? = some call)
    (free : ∀ entry, call.waitsFor = some entry → s.writeLocked entry = false) :
    ∃ s', Step s s' ∧ s'.remaining < s.remaining := by
  have keyedCall := keyed.calls call (List.getElem?_mem here)
  have continues : ∀ {t : System} {next : Call}, t.calls = s.calls →
      next.remaining < call.remaining → (t.continueAt index next).remaining < s.remaining :=
    fun {t next} sameCalls fewer => by
      have := remaining_continueAt here sameCalls next
      omega
  have finishes : ∀ {t : System} {served : List Returned}, t.calls = s.calls →
      (t.finishAt index served).remaining < s.remaining := fun {t served} sameCalls => by
    have := remaining_finishAt here sameCalls served
    have := call.remaining_pos
    omega
  have unlocked : ∀ {entry current}, call.waitsFor = some entry →
      s.entries[entry]? = some current → current.writeLocked = false := fun waits found => by
    simpa [System.writeLocked, found] using free _ waits
  cases call with
  | save record =>
    exact ⟨_, .save index here, (finishes rfl : (s.finishAt index []).remaining < _)⟩
  | getStart vault =>
    exact ⟨_, .getRetrieve index here,
      continues rfl (by split <;> simp only [Call.remaining] <;> decide)⟩
  | getCheck vault entry =>
    obtain ⟨current, found, -⟩ := keyedCall
    refine ⟨_, .getCheck index here found (unlocked rfl found), ?_⟩
    split
    · exact finishes rfl
    · exact continues rfl (Nat.lt_succ_self _)
  | getLock vault entry =>
    obtain ⟨current, found, -⟩ := keyedCall
    exact ⟨_, .getLock index here found (unlocked rfl found),
      continues rfl (Nat.lt_succ_self _)⟩
  | getRecheck vault entry =>
    obtain ⟨current, found, -⟩ := keyedCall
    refine ⟨_, .getRecheck index here found, ?_⟩
    split
    · exact finishes rfl
    · exact continues rfl (Nat.lt_succ_self _)
  | getFetch vault entry => exact ⟨_, .getFetch index here, continues rfl (Nat.lt_succ_self _)⟩
  | getUpdate vault entry fetched =>
    obtain ⟨⟨current, found, -⟩, -⟩ := keyedCall
    refine ⟨_, .getUpdate index here found, ?_⟩
    cases fetched <;> exact finishes rfl
  | getMiss vault =>
    refine ⟨_, .getMiss index here, ?_⟩
    split
    · exact continues rfl (Nat.lt_succ_self _)
    · exact finishes rfl
  | getInsert vault record =>
    obtain ⟨cache, inserted⟩ := s.cache.exists_inserts vault s.entries.length
    exact ⟨_, .getInsert index here inserted, finishes rfl⟩
  | batchStart vaults =>
    refine ⟨_, .batchStart index here, ?_⟩
    split
    · rename_i records read
      have shorter := getByVaultBatch_length read
      exact continues rfl (by simp only [Call.remaining]; omega)
    · exact finishes rfl
  | batchLoop records pending =>
    cases pending with
    | nil => exact ⟨_, .batchReturn index here, finishes rfl⟩
    | cons record rest =>
      refine ⟨_, .batchRetrieve index here (List.mem_cons_self _ _), continues rfl ?_⟩
      split <;> simp only [Call.remaining, List.erase_cons_head, List.length_cons] <;> omega
  | batchLock records pending record entry =>
    obtain ⟨current, found, -⟩ := keyedCall
    exact ⟨_, .batchLock index here found (unlocked rfl found),
      continues rfl (Nat.lt_succ_self _)⟩
  | batchUpdate records pending record entry =>
    exact ⟨_, .batchUpdate index here, continues rfl (Nat.lt_succ_self _)⟩
  | batchInsert records pending record =>
    obtain ⟨cache, inserted⟩ := s.cache.exists_inserts record.vaultAddress s.entries.length
    exact ⟨_, .batchInsert index here inserted, continues rfl (Nat.lt_succ_self _)⟩

/-- No deadlock: when calls are in flight, the first one can run, or it waits for a lock
whose holder can. -/
theorem step_progress {s : System} (keyed : Keyed s) (owned : Owned s) (busy : s.calls ≠ []) :
    ∃ s', Step s s' ∧ s'.remaining < s.remaining := by
  obtain ⟨call, rest, calls⟩ := List.exists_cons_of_ne_nil busy
  have here : s.calls[0]? = some call := by simp [calls]
  by_cases free : ∀ entry, call.waitsFor = some entry → s.writeLocked entry = false
  · exact call_advances keyed here free
  · push_neg at free
    obtain ⟨entry, -, locked⟩ := free
    have held : 0 < s.holders entry := by
      rw [owned entry, if_pos (eq_true_of_ne_false locked)]
      exact Nat.one_pos
    obtain ⟨holder, member, holds⟩ := holders_pos_iff.mp held
    obtain ⟨index, at'⟩ := List.mem_iff_getElem?.mp member
    refine call_advances keyed at' fun other waits => ?_
    rw [Call.waitsFor_of_holds holds] at waits
    cases waits

/-- From every reachable state the calls in flight can all return, by steps that each lower
the work left, and so each run a call: starting a call adds work, and a tick of the clock or an
eviction leaves it as it is. -/
theorem calls_in_flight_can_finish {s : System} {trace : List System} (run : Run (s :: trace)) :
    ∃ done, Relation.ReflTransGen (fun a b => Step a b ∧ b.remaining < a.remaining) s done ∧
      done.calls = [] := by
  generalize work : s.remaining = bound
  induction bound using Nat.strong_induction_on generalizing s trace with
  | _ bound inductionHypothesis =>
    by_cases busy : s.calls = []
    · exact ⟨s, .refl, busy⟩
    · obtain ⟨next, step, fewer⟩ := step_progress run.keyed run.owned busy
      obtain ⟨done, path, finished⟩ :=
        inductionHypothesis next.remaining (work ▸ fewer) (run.step step) rfl
      exact ⟨done, .head ⟨step, fewer⟩ path, finished⟩

/-- Two reads of a stale entry: the first holds its write lock and is about to recheck, the
second waits for it at the read-locked check. -/
theorem exists_contended_run : ∃ s trace, Run (s :: trace) ∧
    s.calls = [.getRecheck "v" 0, .getCheck "v" 0] ∧ s.writeLocked 0 = true := by
  have run := (((((((((((Run.start raceStart_initial).step
    (.spawn (.getTimelockByVault "v"))).step
    (.getRetrieve 0 rfl)).step
    (.getMiss 0 rfl)).step
    (.getInsert 0 rfl (.fresh rfl))).step
    (.tick (Nat.zero_le timelockCacheTTL))).step
    (.spawn (.getTimelockByVault "v"))).step
    (.spawn (.getTimelockByVault "v"))).step
    (.getRetrieve 0 rfl)).step
    (.getRetrieve 1 rfl)).step
    (.getCheck 0 rfl rfl rfl)).step
    (.getLock 0 rfl rfl rfl)
  exact ⟨_, _, run, rfl, rfl⟩

/-- The lock of the contended entry has one holder. -/
theorem contended_lock_single_holder : ∃ s trace, Run (s :: trace) ∧ s.writeLocked 0 = true ∧
    (s.holders 0 ≤ 1 ∧
      (s.writeLocked 0 = true ↔ ∃ call ∈ s.calls, call.holds = some 0)) := by
  obtain ⟨s, trace, run, -, locked⟩ := exists_contended_run
  exact ⟨s, trace, run, locked, entry_lock_single_holder run 0⟩

/-- Both reads of the contended entry can return. -/
theorem contended_reads_can_finish : ∃ s trace, Run (s :: trace) ∧
    s.calls = [.getRecheck "v" 0, .getCheck "v" 0] ∧
    ∃ done, Relation.ReflTransGen (fun a b => Step a b ∧ b.remaining < a.remaining) s done ∧
      done.calls = [] := by
  obtain ⟨s, trace, run, calls, -⟩ := exists_contended_run
  exact ⟨s, trace, run, calls, calls_in_flight_can_finish run⟩

end CodeServer.Data.Timelock
