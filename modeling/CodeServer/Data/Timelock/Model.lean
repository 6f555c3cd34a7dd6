import CodeServer.Data.Cache

/-!
# The timelock cache under interleaved calls

`GetTimelockByVault` and `GetTimelockByVaultBatch` keep a `timelockCacheEntry` per vault in
`timelockCache`; an entry holds a record, the time it was stored, and a `sync.RWMutex`.
Calls run concurrently, so the model is a step relation over a `System`: every call in flight
sits at a program point (`Call`), and one step runs one region the code's locks make atomic.
Region boundaries follow the source: a cache operation, a read-locked freshness check, the
acquisition of an entry's write lock, each action under it, a store read, a store write.

Between steps the clock may advance and the cache budget may evict any key. A `Run` is the
list of states visited, newest first.
-/

namespace CodeServer.Data.Timelock

/-- The fields of a `timelock.Record` the cached paths read: the vault it is kept under and
the block it was observed at. `vaultState` stands for the fields that are only copied. -/
structure Record where
  vaultAddress : String
  vaultState : Nat
  block : Nat
  deriving DecidableEq, Repr

/-- `timelockCacheTTL`, `5 * time.Second`, in nanoseconds. -/
def timelockCacheTTL : Nat := 5 * Time.second

/-- A `timelockCacheEntry`. A read lock is only held within one step, so the mutex shows
only whether a writer holds it. -/
structure CacheEntry where
  writeLocked : Bool
  record : Record
  lastUpdatedAt : Nat
  deriving DecidableEq, Repr

/-- Where a call in flight is in the code. -/
inductive Call where
  /-- `SaveTimelock(record)`, before the store write. -/
  | save (record : Record)
  /-- `GetTimelockByVault(vault)`, before `timelockCache.Retrieve(vault)`. -/
  | getStart (vault : String)
  /-- A hit on `entry`: before the read-locked freshness check. -/
  | getCheck (vault : String) (entry : Nat)
  /-- Stale under the read lock: before `cacheEntry.mu.Lock()`. -/
  | getLock (vault : String) (entry : Nat)
  /-- Holding the write lock: before the second freshness check. -/
  | getRecheck (vault : String) (entry : Nat)
  /-- Holding the write lock, still stale: before `dp.timelock.GetByVault(vault)`. -/
  | getFetch (vault : String) (entry : Nat)
  /-- Holding the write lock with the store's answer: before the update and the unlock. -/
  | getUpdate (vault : String) (entry : Nat) (fetched : Option Record)
  /-- A miss: before `dp.timelock.GetByVault(vault)`. -/
  | getMiss (vault : String)
  /-- A miss with the store's record: before `timelockCache.Insert`. -/
  | getInsert (vault : String) (record : Record)
  /-- `GetTimelockByVaultBatch(vaults)`, before `dp.timelock.GetByVaultBatch`. -/
  | batchStart (vaults : List String)
  /-- In the loop over the store's `records`; `pending` is what the loop has not reached. -/
  | batchLoop (records pending : List Record)
  /-- A hit for `record` on `entry`: before `cacheEntry.mu.Lock()`. -/
  | batchLock (records pending : List Record) (record : Record) (entry : Nat)
  /-- Holding `entry`'s write lock: before the update and the unlock. -/
  | batchUpdate (records pending : List Record) (record : Record) (entry : Nat)
  /-- A miss for `record`: before `timelockCache.Insert`. -/
  | batchInsert (records pending : List Record) (record : Record)
  deriving DecidableEq, Repr

/-- A call as a client starts it. -/
inductive Request where
  | saveTimelock (record : Record)
  | getTimelockByVault (vault : String)
  | getTimelockByVaultBatch (vaults : List String)
  deriving DecidableEq, Repr

/-- The program point a request starts at. -/
def Request.start : Request → Call
  | .saveTimelock record => .save record
  | .getTimelockByVault vault => .getStart vault
  | .getTimelockByVaultBatch vaults => .batchStart vaults

/-- A record a call returned, with the clock at its return; `batch` marks the records of
`GetTimelockByVaultBatch`. -/
structure Returned where
  vault : String
  record : Record
  time : Nat
  batch : Bool
  deriving DecidableEq, Repr

/-- A provider with a timelock cache, the calls in flight on it, and what they returned. -/
structure System where
  /-- `dp.timelock`: the record stored for each vault. -/
  store : String → Option Record
  /-- `dp.timelockCache`: the entry each vault's key points to. -/
  cache : Cache Nat
  /-- Every `timelockCacheEntry` allocated so far; calls may hold evicted ones. -/
  entries : List CacheEntry
  /-- The monotonic clock `time.Now()` reads. -/
  now : Nat
  calls : List Call
  returned : List Returned

/-- The timelock store's `Save`, out of the sources: a record older than the stored one is
refused (`ErrStaleTimelockState`), so a vault's block never decreases. -/
def saveTimelock (store : String → Option Record) (record : Record) : String → Option Record :=
  match store record.vaultAddress with
  | some stored =>
    if record.block < stored.block then store
    else fun vault => if vault = record.vaultAddress then some record else store vault
  | none => fun vault => if vault = record.vaultAddress then some record else store vault

/-- The timelock store's `GetByVaultBatch`, out of the sources: the record of each distinct
vault asked for, or an error when one is missing. -/
def getByVaultBatch (store : String → Option Record) : List String → Option (List Record)
  | [] => some []
  | vault :: vaults =>
    match store vault, getByVaultBatch store vaults with
    | some record, some records => some (if vault ∈ vaults then records else record :: records)
    | _, _ => none

/-- Whether an entry stored at `lastUpdatedAt` is fresh at `now`:
`time.Since(cacheEntry.lastUpdatedAt) < timelockCacheTTL`. -/
def fresh (now lastUpdatedAt : Nat) : Prop := now - lastUpdatedAt < timelockCacheTTL

instance (now lastUpdatedAt : Nat) : Decidable (fresh now lastUpdatedAt) :=
  inferInstanceAs (Decidable (_ < _))

namespace System

/-- The call at position `index` moves to `next`. -/
def continueAt (s : System) (index : Nat) (next : Call) : System :=
  { s with calls := s.calls.set index next }

/-- The call at position `index` ends, having returned `served`. -/
def finishAt (s : System) (index : Nat) (served : List Returned) : System :=
  { s with calls := s.calls.eraseIdx index, returned := s.returned ++ served }

/-- The entry at `entry` takes `record`, stored now, with its write lock released. -/
def storeEntry (s : System) (entry : Nat) (record : Record) : System :=
  { s with entries := s.entries.set entry ⟨false, record, s.now⟩ }

/-- The write lock of the entry at `entry` is taken (`locked`) or released. -/
def setLock (s : System) (entry : Nat) (locked : Bool) (current : CacheEntry) : System :=
  { s with entries := s.entries.set entry { current with writeLocked := locked } }

/-- A new entry for `record`, stored now, and the cache after `Insert` under `vault`. -/
def allocate (s : System) (record : Record) (cache : Cache Nat) : System :=
  { s with entries := s.entries ++ [⟨false, record, s.now⟩], cache }

/-- A record one call returns at the current time. -/
def served (s : System) (vault : String) (record : Record) (batch : Bool) : Returned :=
  ⟨vault, record, s.now, batch⟩

end System

open System in
/-- One step of the system: a call starts, the clock advances, the budget evicts a key, or
the call at position `index` runs its next region. -/
inductive Step : System → System → Prop where
  | spawn {s : System} (request : Request) :
      Step s { s with calls := s.calls ++ [request.start] }
  | tick {s : System} {later : Nat} (advances : s.now ≤ later) : Step s { s with now := later }
  | evict {s : System} (vault : String) : Step s { s with cache := s.cache.evict vault }
  /-- `dp.timelock.Save(record)`. -/
  | save {s : System} (index : Nat) {record : Record} (here : s.calls[index]? = some (.save record)) :
      Step s { s.finishAt index [] with store := saveTimelock s.store record }
  /-- `timelockCache.Retrieve(vault)`. -/
  | getRetrieve {s : System} (index : Nat) {vault : String}
      (here : s.calls[index]? = some (.getStart vault)) :
      Step s (s.continueAt index
        (match s.cache.retrieve vault with
          | some entry => .getCheck vault entry
          | none => .getMiss vault))
  /-- The read-locked check: a fresh record is returned, a stale one goes to `Lock`. -/
  | getCheck {s : System} (index : Nat) {vault : String} {entry : Nat} {current : CacheEntry}
      (here : s.calls[index]? = some (.getCheck vault entry))
      (found : s.entries[entry]? = some current) (unlocked : current.writeLocked = false) :
      Step s (if fresh s.now current.lastUpdatedAt
        then s.finishAt index [s.served vault current.record false]
        else s.continueAt index (.getLock vault entry))
  /-- `cacheEntry.mu.Lock()`. -/
  | getLock {s : System} (index : Nat) {vault : String} {entry : Nat} {current : CacheEntry}
      (here : s.calls[index]? = some (.getLock vault entry))
      (found : s.entries[entry]? = some current) (unlocked : current.writeLocked = false) :
      Step s ((s.setLock entry true current).continueAt index (.getRecheck vault entry))
  /-- The check under the write lock: a fresh record is returned and the lock released. -/
  | getRecheck {s : System} (index : Nat) {vault : String} {entry : Nat} {current : CacheEntry}
      (here : s.calls[index]? = some (.getRecheck vault entry))
      (found : s.entries[entry]? = some current) :
      Step s (if fresh s.now current.lastUpdatedAt
        then (s.setLock entry false current).finishAt index [s.served vault current.record false]
        else s.continueAt index (.getFetch vault entry))
  /-- `dp.timelock.GetByVault(vault)` under the write lock. -/
  | getFetch {s : System} (index : Nat) {vault : String} {entry : Nat}
      (here : s.calls[index]? = some (.getFetch vault entry)) :
      Step s (s.continueAt index (.getUpdate vault entry (s.store vault)))
  /-- The entry takes the fetched record and the lock is released; on a store error the
  entry is left as it was. -/
  | getUpdate {s : System} (index : Nat) {vault : String} {entry : Nat}
      {fetched : Option Record} {current : CacheEntry}
      (here : s.calls[index]? = some (.getUpdate vault entry fetched))
      (found : s.entries[entry]? = some current) :
      Step s (match fetched with
        | some record => (s.storeEntry entry record).finishAt index [s.served vault record false]
        | none => (s.setLock entry false current).finishAt index [])
  /-- `dp.timelock.GetByVault(vault)` after a miss. -/
  | getMiss {s : System} (index : Nat) {vault : String}
      (here : s.calls[index]? = some (.getMiss vault)) :
      Step s (match s.store vault with
        | some record => s.continueAt index (.getInsert vault record)
        | none => s.finishAt index [])
  /-- `timelockCache.Insert(vault, cacheEntry, 1)` and the return. -/
  | getInsert {s : System} (index : Nat) {vault : String} {record : Record} {cache : Cache Nat}
      (here : s.calls[index]? = some (.getInsert vault record))
      (inserted : s.cache.Inserts vault s.entries.length cache) :
      Step s ((s.allocate record cache).finishAt index [s.served vault record false])
  /-- `dp.timelock.GetByVaultBatch(vaults...)`. -/
  | batchStart {s : System} (index : Nat) {vaults : List String}
      (here : s.calls[index]? = some (.batchStart vaults)) :
      Step s (match getByVaultBatch s.store vaults with
        | some records => s.continueAt index (.batchLoop records records)
        | none => s.finishAt index [])
  /-- The loop reaches `record`, in any order (Go map order), and retrieves its entry. -/
  | batchRetrieve {s : System} (index : Nat) {records pending : List Record} {record : Record}
      (here : s.calls[index]? = some (.batchLoop records pending)) (next : record ∈ pending) :
      Step s (s.continueAt index
        (match s.cache.retrieve record.vaultAddress with
          | some entry => .batchLock records (pending.erase record) record entry
          | none => .batchInsert records (pending.erase record) record))
  /-- `cacheEntry.mu.Lock()` in the loop. -/
  | batchLock {s : System} (index : Nat) {records pending : List Record} {record : Record}
      {entry : Nat} {current : CacheEntry}
      (here : s.calls[index]? = some (.batchLock records pending record entry))
      (found : s.entries[entry]? = some current) (unlocked : current.writeLocked = false) :
      Step s ((s.setLock entry true current).continueAt index
        (.batchUpdate records pending record entry))
  /-- The entry takes the loop's record and the lock is released. -/
  | batchUpdate {s : System} (index : Nat) {records pending : List Record} {record : Record}
      {entry : Nat} (here : s.calls[index]? = some (.batchUpdate records pending record entry)) :
      Step s ((s.storeEntry entry record).continueAt index (.batchLoop records pending))
  /-- `timelockCache.Insert(record.VaultAddress, cacheEntry, 1)` in the loop. -/
  | batchInsert {s : System} (index : Nat) {records pending : List Record} {record : Record}
      {cache : Cache Nat} (here : s.calls[index]? = some (.batchInsert records pending record))
      (inserted : s.cache.Inserts record.vaultAddress s.entries.length cache) :
      Step s ((s.allocate record cache).continueAt index (.batchLoop records pending))
  /-- The loop is done: the batch returns every record it read. -/
  | batchReturn {s : System} (index : Nat) {records : List Record}
      (here : s.calls[index]? = some (.batchLoop records [])) :
      Step s (s.finishAt index (records.map fun record => s.served record.vaultAddress record true))

/-- A provider as `NewDatabaseProvider` leaves it: a store whose records sit under their own
vaults, an empty cache, and nothing in flight. -/
structure Initial (s : System) : Prop where
  keyed : ∀ vault record, s.store vault = some record → record.vaultAddress = vault
  cache : s.cache = Cache.empty
  entries : s.entries = []
  calls : s.calls = []
  returned : s.returned = []

/-- The states of an execution, newest first. -/
inductive Run : List System → Prop where
  | start {s : System} (initial : Initial s) : Run [s]
  | step {s next : System} {trace : List System} (prior : Run (s :: trace))
      (transition : Step s next) : Run (next :: s :: trace)

end CodeServer.Data.Timelock
