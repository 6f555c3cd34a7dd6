import CodeServer.Data.Timelock.Effects

/-!
# What the cache serves under any interleaving

Under every interleaving of saves, single reads and batch reads, each record a call returns
for a vault is a record the store held for that vault at some earlier state, and its block
is no newer than the store's block now (`served_records_were_stored`). Reads are not
monotone, though: a batch read that fetched a record before a newer save can overwrite a
fresh entry with it after a single read has already served the newer record, and a later
single read then serves the older one (`batch_overwrite_serves_older_block`).
-/

namespace CodeServer.Data.Timelock

/-- Every record a state holds: in the entries, in the calls in flight, and returned. -/
def System.records (s : System) : List Record :=
  s.entries.map CacheEntry.record ++ s.callRecords ++ s.returned.map Returned.record

/-- Every record held after a step was held before it or was just read from the store. -/
theorem step_records {s s' : System} (keyed : Keyed s) (step : Step s s') {record : Record}
    (member : record ∈ s'.records) :
    record ∈ s.records ∨ s.store record.vaultAddress = some record := by
  have inEntries : ∀ {current : CacheEntry}, current ∈ s.entries → current.record ∈ s.records :=
    fun found => by simp [System.records, List.mem_map.mpr ⟨_, found, rfl⟩]
  have inCalls : ∀ {record : Record}, record ∈ s.callRecords → record ∈ s.records :=
    fun held => by simp [System.records, held]
  simp only [System.records, List.mem_append, List.mem_map] at member
  rcases member with (⟨current, found, rfl⟩ | held) | ⟨served, returned, rfl⟩
  · obtain ⟨entry, foundAt⟩ := List.mem_iff_getElem?.mp found
    rcases step_entries step foundAt with ⟨old, oldAt, same, -⟩ | ⟨-, held⟩
    · exact .inl (same ▸ inEntries (List.getElem?_mem oldAt))
    · exact .inl (inCalls held)
  · exact (step_callRecords keyed step held).imp_left inCalls
  · rcases step_returned keyed step returned with old | ⟨-, -, held | ⟨current, found, same, -⟩⟩
    · exact .inl (by simp [System.records, List.mem_map.mpr ⟨_, old, rfl⟩])
    · exact .inl (inCalls held)
    · exact .inl (same ▸ inEntries found)

/-- A record the store held for its vault at a state of the trace, no newer than the
store's record for that vault in `s`. -/
def Witnessed (trace : List System) (s : System) (record : Record) : Prop :=
  (∃ earlier ∈ trace, earlier.store record.vaultAddress = some record) ∧
    ∃ latest, s.store record.vaultAddress = some latest ∧ record.block ≤ latest.block

/-- `SaveTimelock` never lowers the block stored for a vault. -/
theorem saveTimelock_block_le {store : String → Option Record} {vault : String}
    {latest : Record} (found : store vault = some latest) (record : Record) :
    ∃ newer, saveTimelock store record vault = some newer ∧ latest.block ≤ newer.block := by
  by_cases same : vault = record.vaultAddress
  · subst same
    cases current : store record.vaultAddress with
    | none => simp [current] at found
    | some stored =>
      obtain rfl : latest = stored := Option.some.inj (found.symm.trans current)
      simp only [saveTimelock, current]
      split
      · exact ⟨latest, current, Nat.le_refl _⟩
      · exact ⟨record, by simp, by omega⟩
  · refine ⟨latest, ?_, Nat.le_refl _⟩
    cases current : store record.vaultAddress with
    | none => simp [saveTimelock, current, same, found]
    | some stored =>
      simp only [saveTimelock, current]
      split
      · exact found
      · simp [same, found]

/-- A step keeps the store's block for a vault at least as high as it was. -/
theorem step_block_le {s s' : System} (step : Step s s') {vault : String} {block : Nat}
    (bounded : ∃ latest, s.store vault = some latest ∧ block ≤ latest.block) :
    ∃ latest, s'.store vault = some latest ∧ block ≤ latest.block := by
  obtain ⟨latest, found, below⟩ := bounded
  rcases step_store step with same | ⟨-, record, -, saved, -⟩
  · exact ⟨latest, same ▸ found, below⟩
  · obtain ⟨newer, stored, higher⟩ := saveTimelock_block_le found record
    exact ⟨newer, saved ▸ stored, Nat.le_trans below higher⟩

/-- Along a run, every record held anywhere is `Witnessed`. -/
theorem Run.witnessed {s : System} {trace : List System} (run : Run (s :: trace)) :
    ∀ record ∈ s.records, Witnessed (s :: trace) s record := by
  generalize states : s :: trace = all at run
  induction run generalizing s trace with
  | start initial =>
    obtain ⟨rfl, -⟩ := List.cons.inj states
    simp [System.records, System.callRecords, initial.entries, initial.calls, initial.returned]
  | @step before next earlier prior transition inductionHypothesis =>
    obtain ⟨rfl, rfl⟩ := List.cons.inj states
    intro record member
    rcases step_records prior.keyed transition member with old | read
    · obtain ⟨⟨state, inTrace, stored⟩, bounded⟩ := inductionHypothesis rfl record old
      exact ⟨⟨state, List.mem_cons_of_mem _ inTrace, stored⟩, step_block_le transition bounded⟩
    · exact ⟨⟨before, List.mem_cons_of_mem _ (List.mem_cons_self _ _), read⟩,
        step_block_le transition ⟨record, read, Nat.le_refl _⟩⟩

/-- Under every interleaving of saves, single reads and batch reads, each record returned
for a vault has that vault, was the store's record for the vault at some state of the run,
and is no newer than the store's record for the vault now. -/
theorem served_records_were_stored {s : System} {trace : List System} (run : Run (s :: trace)) :
    ∀ served ∈ s.returned, served.record.vaultAddress = served.vault ∧
      (∃ earlier ∈ s :: trace, earlier.store served.vault = some served.record) ∧
      ∃ latest, s.store served.vault = some latest ∧ served.record.block ≤ latest.block := by
  intro served member
  have vaultOf := run.keyed.returned served member
  have witnessed := run.witnessed served.record
    (by simp [System.records, List.mem_map.mpr ⟨_, member, rfl⟩])
  simp only [Witnessed, vaultOf] at witnessed
  exact ⟨vaultOf, witnessed⟩

/-- A provider whose store holds block 5 for vault `"v"`. -/
def raceStart : System where
  store vault := if vault = "v" then some ⟨"v", 0, 5⟩ else none
  cache := Cache.empty
  entries := []
  now := 0
  calls := []
  returned := []

theorem raceStart_initial : Initial raceStart where
  keyed vault record found := by
    simp only [raceStart] at found
    split at found
    · cases found; simp_all
    · cases found
  cache := rfl
  entries := rfl
  calls := rfl
  returned := rfl

/-- A read misses and returns block 5 from the store; a save writes block 10; a second read
hits the fresh entry and returns block 5 again. Both records were stored, at blocks no later
than the store's. -/
theorem cached_read_after_save_serves_stored_record :
    ∃ s trace, Run (s :: trace) ∧
      s.returned.map (fun served => served.record.block) = [5, 5] ∧
      s.store "v" = some ⟨"v", 1, 10⟩ ∧
      ∀ served ∈ s.returned, served.record.vaultAddress = served.vault ∧
        (∃ earlier ∈ s :: trace, earlier.store served.vault = some served.record) ∧
        ∃ latest, s.store served.vault = some latest ∧ served.record.block ≤ latest.block := by
  have run := (((((((((Run.start raceStart_initial).step
    (.spawn (.getTimelockByVault "v"))).step
    (.getRetrieve 0 rfl)).step
    (.getMiss 0 rfl)).step
    (.getInsert 0 rfl (.fresh rfl))).step
    (.spawn (.saveTimelock ⟨"v", 1, 10⟩))).step
    (.save 0 rfl)).step
    (.spawn (.getTimelockByVault "v"))).step
    (.getRetrieve 0 rfl)).step
    (.getCheck 0 rfl rfl rfl)
  exact ⟨_, _, run, by decide, by decide, served_records_were_stored run⟩

/-- Monotone reads, as far as the order of calls is certain: once a record has been returned
and no call is in flight, no `GetTimelockByVault` for its vault returns an older block. -/
def ServesNoOlder (s : System) (trace : List System) : Prop :=
  ∀ mid ∈ trace, mid.calls = [] → ∀ earlier ∈ mid.returned,
    ∀ later ∈ s.returned.drop mid.returned.length, later.batch = false →
      later.vault = earlier.vault → earlier.record.block ≤ later.record.block

/-- A batch read takes block 5 from the store; a save writes block 10; a read misses and
returns block 10; the batch then overwrites the fresh entry with block 5 and returns. With
nothing in flight, a new read for `"v"` hits the fresh entry and returns block 5. -/
theorem batch_overwrite_serves_older_block :
    ¬ ∀ s trace, Run (s :: trace) → ServesNoOlder s trace := by
  intro monotone
  have run := (((((((((((((((Run.start raceStart_initial).step
    (.spawn (.getTimelockByVaultBatch ["v"]))).step
    (.batchStart 0 rfl)).step
    (.spawn (.saveTimelock ⟨"v", 1, 10⟩))).step
    (.save 1 rfl)).step
    (.spawn (.getTimelockByVault "v"))).step
    (.getRetrieve 1 rfl)).step
    (.getMiss 1 rfl)).step
    (.getInsert 1 rfl (.fresh rfl))).step
    (.batchRetrieve 0 rfl (.head _))).step
    (.batchLock 0 rfl rfl rfl)).step
    (.batchUpdate 0 rfl)).step
    (.batchReturn 0 rfl)).step
    (.spawn (.getTimelockByVault "v"))).step
    (.getRetrieve 0 rfl)).step
    (.getCheck 0 rfl rfl rfl)
  exact absurd (monotone _ _ run _ (.tail _ (.tail _ (.head _))) rfl
    ⟨"v", ⟨"v", 1, 10⟩, 0, false⟩ (by decide) ⟨"v", ⟨"v", 0, 5⟩, 0, false⟩ (by decide) rfl rfl)
    (by decide)

end CodeServer.Data.Timelock
