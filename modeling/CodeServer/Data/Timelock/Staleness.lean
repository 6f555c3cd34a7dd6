import CodeServer.Data.Timelock.Served

/-!
# How stale a sequential read can be

When calls do not overlap, nothing writes the store while a call holds records it read from
it. Every entry then holds the store's record of the moment it was written, and every read
returns the store's record of a moment within the last `timelockCacheTTL`
(`sequential_reads_within_ttl`): a read agrees with the uncached provider whenever the vault's
record did not change over that window.
-/

namespace CodeServer.Data.Timelock

/-- No two calls overlap: at most one call is in flight at every state. -/
def Sequential (trace : List System) : Prop := ∀ s ∈ trace, s.calls.length ≤ 1

instance (trace : List System) : Decidable (Sequential trace) :=
  inferInstanceAs (Decidable (∀ s ∈ trace, s.calls.length ≤ 1))

/-- A state of `trace` whose clock read `time` and whose store held `record` for its vault. -/
def StoredAt (trace : List System) (record : Record) (time : Nat) : Prop :=
  ∃ earlier ∈ trace, earlier.now = time ∧ earlier.store record.vaultAddress = some record

theorem StoredAt.cons {trace : List System} {record : Record} {time : Nat}
    (stored : StoredAt trace record time) (s : System) : StoredAt (s :: trace) record time :=
  let ⟨earlier, inTrace, clock, found⟩ := stored
  ⟨earlier, List.mem_cons_of_mem s inTrace, clock, found⟩

/-- What a sequential run keeps true of its newest state `s`, over the states `trace` it
went through (`s` included). -/
structure Current (trace : List System) (s : System) : Prop where
  clock : ∀ earlier ∈ trace, earlier.now ≤ s.now
  calls : ∀ record ∈ s.callRecords, s.store record.vaultAddress = some record
  entries : ∀ entry ∈ s.entries, StoredAt trace entry.record entry.lastUpdatedAt
  returned : ∀ served ∈ s.returned, ∃ time, StoredAt trace served.record time ∧
    time ≤ served.time ∧ served.time < time + timelockCacheTTL

/-- With one call in flight, a call that ends leaves none. -/
theorem eraseIdx_eq_nil {calls : List Call} {index : Nat} {call : Call}
    (single : calls.length ≤ 1) (here : calls[index]? = some call) : calls.eraseIdx index = [] :=
  List.eq_nil_of_length_eq_zero (by
    rw [List.length_eraseIdx_of_lt (List.getElem?_eq_some_iff.mp here).1]
    omega)

/-- One step of a sequential run: records held by a call are still the store's, since only a
save writes the store and a save runs alone. -/
theorem step_current_calls {s s' : System} (keyed : Keyed s) (step : Step s s')
    (single : s.calls.length ≤ 1)
    (calls : ∀ record ∈ s.callRecords, s.store record.vaultAddress = some record) :
    ∀ record ∈ s'.callRecords, s'.store record.vaultAddress = some record := by
  intro record held
  rcases step_store step with same | ⟨index, saved, here, -, erased⟩
  · rw [same]
    exact (step_callRecords keyed step held).elim (calls record) id
  · simp [System.callRecords, erased, eraseIdx_eq_nil single here] at held

theorem step_current {s s' : System} {trace : List System} (keyed : Keyed s)
    (step : Step s s') (single : s.calls.length ≤ 1) (current : Current (s :: trace) s) :
    Current (s' :: s :: trace) s' where
  clock earlier member := by
    rcases List.mem_cons.mp member with rfl | older
    · exact Nat.le_refl _
    · exact Nat.le_trans (current.clock earlier older) (step_now step)
  calls := step_current_calls keyed step single current.calls
  entries entry member := by
    obtain ⟨index, at'⟩ := List.mem_iff_getElem?.mp member
    rcases step_entries step at' with ⟨old, oldAt, record, time⟩ | ⟨time, held⟩
    · exact record ▸ time ▸ (current.entries old (List.getElem?_mem oldAt)).cons s'
    · exact ⟨s, List.mem_cons_of_mem _ (List.mem_cons_self _ _), time.symm,
        current.calls _ held⟩
  returned served member := by
    rcases step_returned keyed step member with old | ⟨time, -, fromCall | fromEntry⟩
    · obtain ⟨written, stored, after, within⟩ := current.returned served old
      exact ⟨written, stored.cons s', after, within⟩
    · refine ⟨s.now, ⟨s, List.mem_cons_of_mem _ (List.mem_cons_self _ _), rfl,
        current.calls _ fromCall⟩, time.ge, ?_⟩
      simp only [time, timelockCacheTTL, Time.second]
      omega
    · obtain ⟨entry, found, same, isFresh⟩ := fromEntry
      obtain ⟨earlier, inTrace, clock, stored⟩ := current.entries entry found
      have written := clock ▸ current.clock earlier inTrace
      refine ⟨entry.lastUpdatedAt, same ▸ (StoredAt.cons ⟨earlier, inTrace, clock, stored⟩ s'),
        time ▸ written, ?_⟩
      simp only [fresh] at isFresh
      omega

/-- Every sequential run keeps `Current`. -/
theorem Run.current {s : System} {trace : List System} (run : Run (s :: trace))
    (sequential : Sequential (s :: trace)) : Current (s :: trace) s := by
  generalize states : s :: trace = all at run
  induction run generalizing s trace with
  | start initial =>
    obtain ⟨rfl, rfl⟩ := List.cons.inj states
    refine ⟨fun earlier member => ?_, ?_, ?_, ?_⟩
    · simp only [List.mem_singleton] at member
      exact member ▸ Nat.le_refl _
    · simp [System.callRecords, initial.calls]
    · simp [initial.entries]
    · simp [initial.returned]
  | @step before next earlier prior transition inductionHypothesis =>
    obtain ⟨rfl, rfl⟩ := List.cons.inj states
    have single := sequential before (List.mem_cons_of_mem _ (List.mem_cons_self _ _))
    exact step_current prior.keyed transition single
      (inductionHypothesis (fun state member => sequential state (List.mem_cons_of_mem _ member))
        rfl)

/-- In every run whose calls do not overlap, each record `GetTimelockByVault(v)` returns at
time `t` is the store's record for `v` at some time `u` with `t - timelockCacheTTL < u ≤ t`.
So it is the record the uncached provider returns whenever `v`'s stored record did not change
over that window, and every entry, those `GetTimelockByVaultBatch` writes included, holds
the record `GetTimelockByVault` would have fetched when the entry was written. -/
theorem sequential_reads_within_ttl {s : System} {trace : List System} (run : Run (s :: trace))
    (sequential : Sequential (s :: trace)) :
    (∀ served ∈ s.returned, served.batch = false →
      ∃ earlier ∈ s :: trace, earlier.store served.vault = some served.record ∧
        earlier.now ≤ served.time ∧ served.time < earlier.now + timelockCacheTTL) ∧
    (∀ served ∈ s.returned, served.batch = false → ∀ record : Record,
      (∀ earlier ∈ s :: trace, earlier.now ≤ served.time →
        served.time < earlier.now + timelockCacheTTL → earlier.store served.vault = some record) →
      served.record = record) ∧
    (∀ entry ∈ s.entries, ∃ earlier ∈ s :: trace, earlier.now = entry.lastUpdatedAt ∧
      earlier.store entry.record.vaultAddress = some entry.record) := by
  have current := run.current sequential
  have within : ∀ served ∈ s.returned, ∃ earlier ∈ s :: trace,
      earlier.store served.vault = some served.record ∧
        earlier.now ≤ served.time ∧ served.time < earlier.now + timelockCacheTTL := by
    intro served member
    obtain ⟨time, ⟨earlier, inTrace, rfl, stored⟩, after, before⟩ := current.returned served member
    rw [run.keyed.returned served member] at stored
    exact ⟨earlier, inTrace, stored, after, before⟩
  refine ⟨fun served member _ => within served member, ?_, current.entries⟩
  intro served member _ record unchanged
  obtain ⟨earlier, inTrace, stored, after, before⟩ := within served member
  exact Option.some.inj (stored.symm.trans (unchanged earlier inTrace after before))

/-- Reads one at a time: a miss returns block 5; a save writes block 10; a read within the
TTL hits the fresh entry and returns block 5; past the TTL a read refetches block 10. Each
record was the store's at some time in the TTL before it was returned. -/
theorem sequential_reads_hit_then_refetch :
    ∃ s trace, Run (s :: trace) ∧ Sequential (s :: trace) ∧
      s.returned.map (fun served => served.record.block) = [5, 5, 10] ∧
      ∀ served ∈ s.returned, served.batch = false →
        ∃ earlier ∈ s :: trace, earlier.store served.vault = some served.record ∧
          earlier.now ≤ served.time ∧ served.time < earlier.now + timelockCacheTTL := by
  have run := (((((((((((((((((Run.start raceStart_initial).step
    (.spawn (.getTimelockByVault "v"))).step
    (.getRetrieve 0 rfl)).step
    (.getMiss 0 rfl)).step
    (.getInsert 0 rfl (.fresh rfl))).step
    (.spawn (.saveTimelock ⟨"v", 1, 10⟩))).step
    (.save 0 rfl)).step
    (.spawn (.getTimelockByVault "v"))).step
    (.getRetrieve 0 rfl)).step
    (.getCheck 0 rfl rfl rfl)).step
    (.tick (Nat.zero_le (6 * Time.second)))).step
    (.spawn (.getTimelockByVault "v"))).step
    (.getRetrieve 0 rfl)).step
    (.getCheck 0 rfl rfl rfl)).step
    (.getLock 0 rfl rfl rfl)).step
    (.getRecheck 0 rfl rfl)).step
    (.getFetch 0 rfl)).step
    (.getUpdate 0 (by exact rfl) (by exact rfl))
  refine ⟨_, _, run, ?alone, by decide, (sequential_reads_within_ttl run ?alone).1⟩
  decide

end CodeServer.Data.Timelock
