import CodeServer.Data.Timelock.Model

/-!
# What one step can do

The invariants of the timelock model follow from a few facts about a single step, proved
here once by cases on `Step`: where the records a step leaves behind come from
(`step_callRecords`, `step_entries`, `step_returned`), how the store changes (`step_store`),
that the clock never goes back (`step_now`), and that every pointer and record stays with its
vault (`step_keyed`).
-/

namespace CodeServer.Data.Timelock

/-- The records a call holds between reading them from the store and storing or returning
them. -/
def Call.records : Call → List Record
  | .getUpdate _ _ fetched => fetched.toList
  | .getInsert _ record => [record]
  | .batchLoop records pending => records ++ pending
  | .batchLock records pending record _ => record :: (records ++ pending)
  | .batchUpdate records pending record _ => record :: (records ++ pending)
  | .batchInsert records pending record => record :: (records ++ pending)
  | _ => []

/-- The records every call in flight holds. -/
def System.callRecords (s : System) : List Record := s.calls.flatMap Call.records

/-- `entries[entry]` exists and holds a record of `vault`. -/
def EntryFor (entries : List CacheEntry) (entry : Nat) (vault : String) : Prop :=
  ∃ current, entries[entry]? = some current ∧ current.record.vaultAddress = vault

/-- The entries and records a call holds belong to the vault it works on. -/
def Call.Keyed (entries : List CacheEntry) : Call → Prop
  | .getCheck vault entry | .getLock vault entry | .getRecheck vault entry
  | .getFetch vault entry => EntryFor entries entry vault
  | .getUpdate vault entry fetched =>
    EntryFor entries entry vault ∧ ∀ record ∈ fetched, record.vaultAddress = vault
  | .getInsert vault record => record.vaultAddress = vault
  | .batchLock _ _ record entry | .batchUpdate _ _ record entry =>
    EntryFor entries entry record.vaultAddress
  | _ => True

/-- Every record sits under its own vault: in the store, behind every cache key, in every
call, and in every return. -/
structure Keyed (s : System) : Prop where
  store : ∀ vault record, s.store vault = some record → record.vaultAddress = vault
  cache : ∀ vault entry, s.cache.retrieve vault = some entry → EntryFor s.entries entry vault
  calls : ∀ call ∈ s.calls, call.Keyed s.entries
  returned : ∀ served ∈ s.returned, served.record.vaultAddress = served.vault

/-- How a record a step returns was produced: now, under its own vault, and either held by a
call or read from an entry found fresh. -/
def ReturnedFrom (s : System) (served : Returned) : Prop :=
  served.time = s.now ∧ served.record.vaultAddress = served.vault ∧
    (served.record ∈ s.callRecords ∨
      ∃ current ∈ s.entries, current.record = served.record ∧ fresh s.now current.lastUpdatedAt)

/-! ## Lists -/

theorem mem_flatMap_set {calls : List Call} {index : Nat} {next : Call} {record : Record}
    (member : record ∈ (calls.set index next).flatMap Call.records) :
    record ∈ next.records ∨ record ∈ calls.flatMap Call.records := by
  obtain ⟨call, inSet, inCall⟩ := List.mem_flatMap.mp member
  rcases List.mem_or_eq_of_mem_set inSet with old | rfl
  · exact .inr (List.mem_flatMap.mpr ⟨call, old, inCall⟩)
  · exact .inl inCall

theorem mem_flatMap_eraseIdx {calls : List Call} {index : Nat} {record : Record}
    (member : record ∈ (calls.eraseIdx index).flatMap Call.records) :
    record ∈ calls.flatMap Call.records := by
  obtain ⟨call, kept, inCall⟩ := List.mem_flatMap.mp member
  exact List.mem_flatMap.mpr ⟨call, List.mem_of_mem_eraseIdx kept, inCall⟩

theorem mem_callRecords_of_at {s : System} {index : Nat} {call : Call} {record : Record}
    (here : s.calls[index]? = some call) (member : record ∈ call.records) :
    record ∈ s.callRecords :=
  List.mem_flatMap.mpr ⟨call, List.getElem?_mem here, member⟩

theorem getElem?_set_cases {α : Type} {list : List α} {index other : Nat} {value found : α}
    (found_at : (list.set index value)[other]? = some found) :
    list[other]? = some found ∨ (other = index ∧ found = value) := by
  rw [List.getElem?_set] at found_at
  split at found_at
  · split at found_at
    · exact .inr ⟨by omega, (Option.some.inj found_at).symm⟩
    · cases found_at
  · exact .inl found_at

theorem getElem?_append_single_cases {α : Type} {list : List α} {index : Nat} {value found : α}
    (found_at : (list ++ [value])[index]? = some found) :
    list[index]? = some found ∨ found = value := by
  rw [List.getElem?_append] at found_at
  split at found_at
  · exact .inl found_at
  · generalize index - list.length = offset at found_at
    cases offset with
    | zero =>
      simp only [List.getElem?_cons_zero, Option.some.injEq] at found_at
      exact .inr found_at.symm
    | succ offset =>
      simp only [List.getElem?_cons_succ, List.getElem?_nil, reduceCtorEq] at found_at

theorem getByVaultBatch_mem {store : String → Option Record} {vaults : List String}
    {records : List Record} (read : getByVaultBatch store vaults = some records)
    {record : Record} (member : record ∈ records) : ∃ vault, store vault = some record := by
  induction vaults generalizing records with
  | nil =>
    cases read
    cases member
  | cons vault vaults inductionHypothesis =>
    simp only [getByVaultBatch] at read
    split at read
    · cases read
      split at member
      · exact inductionHypothesis ‹_› member
      · rcases List.mem_cons.mp member with rfl | member
        · exact ⟨vault, ‹_›⟩
        · exact inductionHypothesis ‹_› member
    · cases read

/-! ## Records held by calls -/

/-- A record a call holds after a step was held by a call before it, or was just read from
the store. -/
theorem step_callRecords {s s' : System} (keyed : Keyed s) (step : Step s s') {record : Record}
    (member : record ∈ s'.callRecords) :
    record ∈ s.callRecords ∨ s.store record.vaultAddress = some record := by
  have fromStore : ∀ {vault}, s.store vault = some record →
      record ∈ s.callRecords ∨ s.store record.vaultAddress = some record :=
    fun {vault} read => .inr (keyed.store vault record read ▸ read)
  cases step with
  | spawn request =>
    simp only [System.callRecords, List.flatMap_append, List.mem_append] at member
    rcases member with member | member
    · exact .inl member
    · cases request <;> simp [Request.start, Call.records] at member
  | tick | evict => exact .inl member
  | save index here => exact .inl (mem_flatMap_eraseIdx member)
  | getRetrieve index here =>
    rcases mem_flatMap_set member with new | old
    · split at new <;> simp [Call.records] at new
    · exact .inl old
  | getCheck index here found unlocked =>
    split at member
    · exact .inl (mem_flatMap_eraseIdx member)
    · rcases mem_flatMap_set member with new | old
      · simp [Call.records] at new
      · exact .inl old
  | getLock index here found unlocked =>
    rcases mem_flatMap_set member with new | old
    · simp [Call.records] at new
    · exact .inl old
  | getRecheck index here found =>
    split at member
    · exact .inl (mem_flatMap_eraseIdx member)
    · rcases mem_flatMap_set member with new | old
      · simp [Call.records] at new
      · exact .inl old
  | getFetch index here =>
    rcases mem_flatMap_set member with new | old
    · exact fromStore (Option.mem_toList.mp new)
    · exact .inl old
  | getUpdate index here found =>
    split at member <;> exact .inl (mem_flatMap_eraseIdx member)
  | @getMiss index vault here =>
    cases read : s.store vault with
    | none =>
      simp only [read] at member
      exact .inl (mem_flatMap_eraseIdx member)
    | some stored =>
      simp only [read] at member
      rcases mem_flatMap_set member with new | old
      · exact fromStore (List.mem_singleton.mp new ▸ read)
      · exact .inl old
  | getInsert index here inserted => exact .inl (mem_flatMap_eraseIdx member)
  | @batchStart index vaults here =>
    cases read : getByVaultBatch s.store vaults with
    | none =>
      simp only [read] at member
      exact .inl (mem_flatMap_eraseIdx member)
    | some records =>
      simp only [read] at member
      rcases mem_flatMap_set member with new | old
      · have inRecords : record ∈ records := (List.mem_append.mp new).elim id id
        obtain ⟨vault, stored⟩ := getByVaultBatch_mem read inRecords
        exact fromStore stored
      · exact .inl old
  | @batchRetrieve index records pending chosen here next =>
    rcases mem_flatMap_set member with new | old
    · left
      apply mem_callRecords_of_at here
      have held : record = chosen ∨ record ∈ records ∨ record ∈ pending.erase chosen := by
        split at new <;> simpa [Call.records] using new
      simp only [Call.records, List.mem_append]
      rcases held with rfl | held | held
      · exact .inr next
      · exact .inl held
      · exact .inr (List.mem_of_mem_erase held)
    · exact .inl old
  | batchLock index here found unlocked =>
    rcases mem_flatMap_set member with new | old
    · exact .inl (mem_callRecords_of_at here new)
    · exact .inl old
  | batchUpdate index here =>
    rcases mem_flatMap_set member with new | old
    · exact .inl (mem_callRecords_of_at here (List.mem_cons_of_mem _ new))
    · exact .inl old
  | batchInsert index here inserted =>
    rcases mem_flatMap_set member with new | old
    · exact .inl (mem_callRecords_of_at here (List.mem_cons_of_mem _ new))
    · exact .inl old
  | batchReturn index here => exact .inl (mem_flatMap_eraseIdx member)

/-! ## Entries, returns, store and clock -/

theorem entries_setLock_cases {s : System} {entry other : Nat} {locked : Bool}
    {current found : CacheEntry} (before : s.entries[entry]? = some current)
    (after : (s.setLock entry locked current).entries[other]? = some found) :
    ∃ old, s.entries[other]? = some old ∧ old.record = found.record ∧
      old.lastUpdatedAt = found.lastUpdatedAt := by
  rcases getElem?_set_cases after with same | ⟨rfl, rfl⟩
  · exact ⟨found, same, rfl, rfl⟩
  · exact ⟨current, before, rfl, rfl⟩

theorem entries_storeEntry_cases {s : System} {entry other : Nat} {record : Record}
    {found : CacheEntry} (after : (s.storeEntry entry record).entries[other]? = some found) :
    s.entries[other]? = some found ∨ (found.lastUpdatedAt = s.now ∧ found.record = record) := by
  rcases getElem?_set_cases after with same | ⟨-, rfl⟩
  · exact .inl same
  · exact .inr ⟨rfl, rfl⟩

theorem entries_allocate_cases {s : System} {other : Nat} {record : Record} {cache : Cache Nat}
    {found : CacheEntry} (after : (s.allocate record cache).entries[other]? = some found) :
    s.entries[other]? = some found ∨ (found.lastUpdatedAt = s.now ∧ found.record = record) := by
  rcases getElem?_append_single_cases after with same | rfl
  · exact .inl same
  · exact .inr ⟨rfl, rfl⟩

/-- Where an entry found after a step comes from: the same record and time before, or written
at the current time with a record a call held. -/
def EntryOrigin (s : System) (entry : Nat) (found : CacheEntry) : Prop :=
  (∃ old, s.entries[entry]? = some old ∧ old.record = found.record ∧
      old.lastUpdatedAt = found.lastUpdatedAt) ∨
    (found.lastUpdatedAt = s.now ∧ found.record ∈ s.callRecords)

theorem EntryOrigin.written {s : System} {entry index : Nat} {call : Call} {record : Record}
    {found : CacheEntry} (here : s.calls[index]? = some call) (held : record ∈ call.records)
    (cases : s.entries[entry]? = some found ∨
      (found.lastUpdatedAt = s.now ∧ found.record = record)) : EntryOrigin s entry found := by
  rcases cases with same | ⟨time, rfl⟩
  · exact .inl ⟨found, same, rfl, rfl⟩
  · exact .inr ⟨time, mem_callRecords_of_at here held⟩

/-- After a step every entry has its `EntryOrigin`. -/
theorem step_entries {s s' : System} (step : Step s s') {entry : Nat} {found : CacheEntry}
    (after : s'.entries[entry]? = some found) : EntryOrigin s entry found := by
  have unchanged : s.entries[entry]? = some found → EntryOrigin s entry found :=
    fun same => .inl ⟨found, same, rfl, rfl⟩
  cases step with
  | getLock index here current unlocked => exact .inl (entries_setLock_cases current after)
  | getRecheck index here current =>
    split at after
    · exact .inl (entries_setLock_cases current after)
    · exact unchanged after
  | @getUpdate index vault entry fetched current here found =>
    cases fetched with
    | some record => exact .written here (by simp [Call.records]) (entries_storeEntry_cases after)
    | none => exact .inl (entries_setLock_cases found after)
  | @getInsert index vault record cache here inserted =>
    exact .written here (by simp [Call.records]) (@entries_allocate_cases s entry record cache found after)
  | batchLock index here current unlocked => exact .inl (entries_setLock_cases current after)
  | batchUpdate index here =>
    exact .written here (by simp [Call.records]) (entries_storeEntry_cases after)
  | @batchInsert index records pending record cache here inserted =>
    exact .written here (by simp [Call.records])
      (@entries_allocate_cases s entry record cache found after)
  | getCheck | getMiss | batchStart => split at after <;> exact unchanged after
  | spawn | tick | evict | save | getRetrieve | getFetch | batchRetrieve | batchReturn =>
    exact unchanged after

/-- A record returned in a step is returned now, under its own vault, and was held by a call
or read from an entry found fresh. -/
theorem step_returned {s s' : System} (keyed : Keyed s) (step : Step s s') {served : Returned}
    (member : served ∈ s'.returned) : served ∈ s.returned ∨ ReturnedFrom s served := by
  have keyedAt : ∀ {index : Nat} {call : Call}, s.calls[index]? = some call →
      call.Keyed s.entries :=
    fun here => keyed.calls _ (List.getElem?_mem here)
  have fromEntry : ∀ {index : Nat} {vault : String} {entry : Nat} {current : CacheEntry},
      s.calls[index]? = some (.getCheck vault entry) ∨
      s.calls[index]? = some (.getRecheck vault entry) → s.entries[entry]? = some current →
      fresh s.now current.lastUpdatedAt → ReturnedFrom s (s.served vault current.record false) := by
    intro index vault entry current which found isFresh
    rcases which with here | here <;>
    · obtain ⟨stored, storedAt, vaultOf⟩ := keyedAt here
      obtain rfl : current = stored := Option.some.inj (found.symm.trans storedAt)
      exact ⟨rfl, vaultOf, .inr ⟨current, List.getElem?_mem found, rfl, isFresh⟩⟩
  cases step with
  | getCheck index here found unlocked =>
    split at member
    · rcases List.mem_append.mp member with old | new
      · exact .inl old
      · exact .inr (List.mem_singleton.mp new ▸ fromEntry (.inl here) found ‹_›)
    · exact .inl member
  | getRecheck index here found =>
    split at member
    · rcases List.mem_append.mp member with old | new
      · exact .inl old
      · exact .inr (List.mem_singleton.mp new ▸ fromEntry (.inr here) found ‹_›)
    · exact .inl member
  | @getUpdate index vault entry fetched current here found =>
    cases fetched with
    | none => exact .inl (by simpa [System.finishAt] using member)
    | some record =>
      rcases List.mem_append.mp member with old | new
      · exact .inl old
      · obtain rfl := List.mem_singleton.mp new
        exact .inr ⟨rfl, (keyedAt here).2 record rfl,
          .inl (mem_callRecords_of_at here (by simp [Call.records, System.served]))⟩
  | getInsert index here inserted =>
    rcases List.mem_append.mp member with old | new
    · exact .inl old
    · obtain rfl := List.mem_singleton.mp new
      exact .inr ⟨rfl, keyedAt here,
        .inl (mem_callRecords_of_at here (by simp [Call.records, System.served]))⟩
  | batchReturn index here =>
    rcases List.mem_append.mp member with old | new
    · exact .inl old
    · obtain ⟨record, held, rfl⟩ := List.mem_map.mp new
      exact .inr ⟨rfl, rfl, .inl (mem_callRecords_of_at here (by simpa [Call.records] using held))⟩
  | save => exact .inl (by simpa [System.finishAt] using member)
  | getMiss | batchStart =>
    split at member <;> exact .inl (by simpa [System.finishAt, System.continueAt] using member)
  | spawn | tick | evict | getRetrieve | getLock | getFetch | batchRetrieve | batchLock
    | batchUpdate | batchInsert => exact .inl member

/-- Only `SaveTimelock`'s write changes the store, and the call ends with it. -/
theorem step_store {s s' : System} (step : Step s s') :
    s'.store = s.store ∨ ∃ index record, s.calls[index]? = some (.save record) ∧
      s'.store = saveTimelock s.store record ∧ s'.calls = s.calls.eraseIdx index := by
  cases step with
  | save index here => exact .inr ⟨index, _, here, rfl, rfl⟩
  | getCheck | getRecheck | getUpdate | getMiss | batchStart => left; split <;> rfl
  | spawn | tick | evict | getRetrieve | getLock | getFetch | getInsert | batchRetrieve
    | batchLock | batchUpdate | batchInsert | batchReturn => exact .inl rfl

/-- The clock never goes back. -/
theorem step_now {s s' : System} (step : Step s s') : s.now ≤ s'.now := by
  cases step with
  | tick advances => exact advances
  | getCheck | getRecheck | getUpdate | getMiss | batchStart => split <;> exact Nat.le_refl _
  | spawn | evict | save | getRetrieve | getLock | getFetch | getInsert | batchRetrieve
    | batchLock | batchUpdate | batchInsert | batchReturn => exact Nat.le_refl _

/-! ## Records stay with their vaults -/

theorem EntryFor.set_same {entries : List CacheEntry} {entry other : Nat} {vault : String}
    {value : CacheEntry} (old : EntryFor entries other vault)
    (same : EntryFor entries entry value.record.vaultAddress) :
    EntryFor (entries.set entry value) other vault := by
  obtain ⟨current, found, vaultOf⟩ := old
  by_cases here : entry = other
  · subst here
    obtain ⟨stored, storedAt, vaultStored⟩ := same
    obtain rfl : current = stored := Option.some.inj (found.symm.trans storedAt)
    exact ⟨value, List.getElem?_set_self (List.getElem?_eq_some_iff.mp found).1,
      vaultStored ▸ vaultOf⟩
  · exact ⟨current, (List.getElem?_set_ne here).trans found, vaultOf⟩

theorem EntryFor.append {entries : List CacheEntry} {entry : Nat} {vault : String}
    {value : CacheEntry} (old : EntryFor entries entry vault) :
    EntryFor (entries ++ [value]) entry vault := by
  obtain ⟨current, found, vaultOf⟩ := old
  exact ⟨current, (List.getElem?_append_left (List.getElem?_eq_some_iff.mp found).1).trans found,
    vaultOf⟩

theorem EntryFor.appended {entries : List CacheEntry} {value : CacheEntry} {vault : String}
    (vaultOf : value.record.vaultAddress = vault) :
    EntryFor (entries ++ [value]) entries.length vault :=
  ⟨value, List.getElem?_concat_length _ _, vaultOf⟩

theorem Call.Keyed.mono {entries entries' : List CacheEntry}
    (transport : ∀ {entry vault}, EntryFor entries entry vault → EntryFor entries' entry vault)
    {call : Call} (keyedCall : call.Keyed entries) : call.Keyed entries' := by
  cases call with
  | getCheck | getLock | getRecheck | getFetch | batchLock | batchUpdate =>
    exact transport keyedCall
  | getUpdate => exact ⟨transport keyedCall.1, keyedCall.2⟩
  | save | getStart | getMiss | getInsert | batchStart | batchLoop | batchInsert =>
    exact keyedCall

theorem saveTimelock_keyed {store : String → Option Record}
    (keyed : ∀ vault record, store vault = some record → record.vaultAddress = vault)
    (record : Record) :
    ∀ vault stored, saveTimelock store record vault = some stored → stored.vaultAddress = vault := by
  have written : ∀ vault stored, (if vault = record.vaultAddress then some record else store vault) =
      some stored → stored.vaultAddress = vault := by
    intro vault stored found
    split at found
    next same =>
      cases found
      exact same.symm
    next => exact keyed vault stored found
  intro vault stored found
  cases current : store record.vaultAddress with
  | none => exact written vault stored (by simpa [saveTimelock, current] using found)
  | some old =>
    simp only [saveTimelock, current] at found
    split at found
    · exact keyed vault stored found
    · exact written vault stored found

/-- An entry keeps holding records of the vault it was created for. -/
theorem step_entryFor {s s' : System} (keyed : Keyed s) (step : Step s s') {entry : Nat}
    {vault : String} (old : EntryFor s.entries entry vault) : EntryFor s'.entries entry vault := by
  have locked : ∀ {other : Nat} {current : CacheEntry} {held : Bool},
      s.entries[other]? = some current → EntryFor (s.setLock other held current).entries entry vault :=
    fun found => old.set_same ⟨_, found, rfl⟩
  cases step with
  | getLock index here found unlocked => exact locked found
  | getRecheck index here found =>
    split
    · exact locked found
    · exact old
  | @getUpdate index updated other fetched current here found =>
    cases fetched with
    | some record =>
      obtain ⟨forEntry, vaultOf⟩ := keyed.calls _ (List.getElem?_mem here)
      exact old.set_same (by rw [vaultOf record rfl]; exact forEntry)
    | none => exact locked found
  | getInsert | batchInsert => exact old.append
  | batchLock index here found unlocked => exact locked found
  | batchUpdate index here => exact old.set_same (keyed.calls _ (List.getElem?_mem here))
  | getCheck | getMiss | batchStart => split <;> exact old
  | spawn | tick | evict | save | getRetrieve | getFetch | batchRetrieve | batchReturn =>
    exact old

/-- A key of the cache after a step points where it did, or to a new entry of its vault. -/
theorem step_cache {s s' : System} (keyed : Keyed s) (step : Step s s') {vault : String}
    {entry : Nat} (found : s'.cache.retrieve vault = some entry) :
    s.cache.retrieve vault = some entry ∨ EntryFor s'.entries entry vault := by
  cases step with
  | evict key =>
    rw [Cache.retrieve_evict] at found
    split at found
    · cases found
    · exact .inl found
  | @getInsert index inserted record cache here inserts =>
    rcases inserts.retrieve vault with same | ⟨rfl, fresh⟩
    · exact .inl (same ▸ found)
    · obtain rfl : entry = s.entries.length := Option.some.inj (found.symm.trans fresh)
      exact .inr (EntryFor.appended (keyed.calls _ (List.getElem?_mem here)))
  | @batchInsert index records pending record cache here inserts =>
    rcases inserts.retrieve vault with same | ⟨rfl, fresh⟩
    · exact .inl (same ▸ found)
    · obtain rfl : entry = s.entries.length := Option.some.inj (found.symm.trans fresh)
      exact .inr (EntryFor.appended rfl)
  | getCheck | getRecheck | getUpdate | getMiss | batchStart => split at found <;> exact .inl found
  | spawn | tick | save | getRetrieve | getLock | getFetch | batchRetrieve | batchLock
    | batchUpdate | batchReturn => exact .inl found

/-- A call in flight after a step was in flight before it, or is the one the step moved on,
keyed to the entries after the step. -/
theorem step_calls {s s' : System} (keyed : Keyed s) (step : Step s s') {call : Call}
    (member : call ∈ s'.calls) : call ∈ s.calls ∨ call.Keyed s'.entries := by
  have transport := fun {entry : Nat} {vault : String} (old : EntryFor s.entries entry vault) =>
    step_entryFor keyed step old
  have keyedAt : ∀ {index : Nat} {call : Call}, s.calls[index]? = some call →
      call.Keyed s.entries :=
    fun here => keyed.calls _ (List.getElem?_mem here)
  have moved : ∀ {index : Nat} {next : Call}, call ∈ s.calls.set index next →
      next.Keyed s.entries → call ∈ s.calls ∨ call.Keyed s.entries := by
    intro index next inSet keyedNext
    rcases List.mem_or_eq_of_mem_set inSet with old | rfl
    · exact .inl old
    · exact .inr keyedNext
  have ended : ∀ {index : Nat}, call ∈ s.calls.eraseIdx index →
      call ∈ s.calls ∨ call.Keyed s.entries :=
    fun kept => .inl (List.mem_of_mem_eraseIdx kept)
  suffices before : call ∈ s.calls ∨ call.Keyed s.entries from
    before.imp id (·.mono transport)
  cases step with
  | spawn request =>
    rcases List.mem_append.mp member with old | new
    · exact .inl old
    · obtain rfl := List.mem_singleton.mp new
      cases request <;> exact .inr trivial
  | tick | evict => exact .inl member
  | save index here => exact ended member
  | @getRetrieve index vault here =>
    cases found : s.cache.retrieve vault with
    | none =>
      simp only [found] at member
      exact moved member trivial
    | some entry =>
      simp only [found] at member
      exact moved member (keyed.cache vault entry found)
  | getCheck index here found unlocked =>
    split at member
    · exact ended member
    · exact moved member (by have held := keyedAt here; exact held)
  | getLock index here found unlocked => exact moved member (by have held := keyedAt here; exact held)
  | getRecheck index here found =>
    split at member
    · exact ended member
    · exact moved member (by have held := keyedAt here; exact held)
  | @getFetch index vault entry here =>
    exact moved member ⟨keyedAt here, keyed.store vault⟩
  | getUpdate index here found => split at member <;> exact ended member
  | @getMiss index vault here =>
    cases read : s.store vault with
    | none =>
      simp only [read] at member
      exact ended member
    | some record =>
      simp only [read] at member
      exact moved member (keyed.store vault record read)
  | getInsert index here inserted => exact ended member
  | @batchStart index vaults here =>
    cases read : getByVaultBatch s.store vaults with
    | none =>
      simp only [read] at member
      exact ended member
    | some records =>
      simp only [read] at member
      exact moved member trivial
  | @batchRetrieve index records pending record here next =>
    cases found : s.cache.retrieve record.vaultAddress with
    | none =>
      simp only [found] at member
      exact moved member trivial
    | some entry =>
      simp only [found] at member
      exact moved member (keyed.cache _ entry found)
  | batchLock index here found unlocked =>
    exact moved member (by have held := keyedAt here; exact held)
  | batchUpdate index here => exact moved member trivial
  | batchInsert index here inserted => exact moved member trivial
  | batchReturn index here => exact ended member

/-- Every step keeps every record with its vault. -/
theorem step_keyed {s s' : System} (keyed : Keyed s) (step : Step s s') : Keyed s' where
  store := by
    rcases step_store step with same | ⟨index, record, -, stored, -⟩
    · exact same ▸ keyed.store
    · exact stored ▸ saveTimelock_keyed keyed.store record
  cache vault entry found :=
    (step_cache keyed step found).elim (fun old => step_entryFor keyed step (keyed.cache _ _ old)) id
  calls call member :=
    (step_calls keyed step member).elim
      (fun old => (keyed.calls call old).mono (step_entryFor keyed step)) id
  returned served member :=
    (step_returned keyed step member).elim (keyed.returned served) (·.2.1)

theorem Initial.toKeyed {s : System} (initial : Initial s) : Keyed s where
  store := initial.keyed
  cache vault entry found := by simp [initial.cache] at found
  calls call member := by simp [initial.calls] at member
  returned served member := by simp [initial.returned] at member

/-- Every state of a run keeps every record with its vault. -/
theorem Run.keyed {s : System} {trace : List System} (run : Run (s :: trace)) : Keyed s := by
  generalize states : s :: trace = all at run
  induction run generalizing s trace with
  | start initial =>
    obtain ⟨rfl, -⟩ := List.cons.inj states
    exact initial.toKeyed
  | step prior transition inductionHypothesis =>
    obtain ⟨rfl, -⟩ := List.cons.inj states
    exact step_keyed (inductionHypothesis rfl) transition

end CodeServer.Data.Timelock
