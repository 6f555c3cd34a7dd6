import CodeServer.Go.Time

/-!
# The weighted cache

`pkg/cache` is not among the sources: the provider uses it through `NewCache(budget)`,
`Retrieve(key)` and `Insert(key, value, weight)`. What the model keeps is what the callers
can observe: a cache maps string keys to values, `Retrieve` reads the map, `Insert` adds a
key, and the budget may evict any entry at any time. Weights only decide which entries the
budget evicts, so they are left out and eviction is a free step.

Whether `Insert` replaces a value already stored under its key is not visible from the
sources. The sequential call models insert only right after a miss on the same key, where
both behaviours agree (`insert`); the concurrent timelock model allows either (`Inserts`).
-/

namespace CodeServer

/-- A cache's contents: the value stored under each key, if any. -/
def Cache (α : Type) := String → Option α

namespace Cache

variable {α : Type}

/-- `cache.NewCache(budget)`: no entries. -/
def empty : Cache α := fun _ => none

/-- `Retrieve(key)`: the stored value, `ok` when there is one. -/
def retrieve (cache : Cache α) (key : String) : Option α := cache key

/-- `Insert(key, value, weight)` on a key that was just missed. -/
def insert (cache : Cache α) (key : String) (value : α) : Cache α :=
  fun other => if other = key then some value else cache other

/-- The budget dropping the entry under `key`. -/
def evict (cache : Cache α) (key : String) : Cache α :=
  fun other => if other = key then none else cache other

@[simp] theorem retrieve_empty (key : String) : (empty : Cache α).retrieve key = none := rfl

@[simp] theorem retrieve_insert (cache : Cache α) (key other : String) (value : α) :
    (cache.insert key value).retrieve other =
      if other = key then some value else cache.retrieve other := rfl

@[simp] theorem retrieve_evict (cache : Cache α) (key other : String) :
    (cache.evict key).retrieve other = if other = key then none else cache.retrieve other :=
  rfl

/-- The possible results of `Insert(key, value, weight)` when calls race: a new key is
stored; a key already present keeps its value or takes the new one. -/
inductive Inserts (cache : Cache α) (key : String) (value : α) : Cache α → Prop where
  | fresh (absent : cache.retrieve key = none) : Inserts cache key value (cache.insert key value)
  | kept {present : α} (found : cache.retrieve key = some present) : Inserts cache key value cache
  | replaced {present : α} (found : cache.retrieve key = some present) :
      Inserts cache key value (cache.insert key value)

/-- `Insert` always returns: a missing key is stored, a present one may be kept. -/
theorem exists_inserts (cache : Cache α) (key : String) (value : α) :
    ∃ after, cache.Inserts key value after := by
  cases found : cache.retrieve key with
  | none => exact ⟨_, .fresh found⟩
  | some present => exact ⟨_, .kept found⟩

/-- After an `Insert`, each key holds its old value or, under the inserted key, the new one. -/
theorem Inserts.retrieve {cache after : Cache α} {key : String} {value : α}
    (inserted : cache.Inserts key value after) (other : String) :
    after.retrieve other = cache.retrieve other ∨
      (other = key ∧ after.retrieve other = some value) := by
  cases inserted with
  | kept => exact .inl rfl
  | fresh | replaced =>
    by_cases same : other = key <;> simp [same]

end Cache

end CodeServer
