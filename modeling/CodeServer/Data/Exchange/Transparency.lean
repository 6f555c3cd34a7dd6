import CodeServer.Data.Exchange

/-!
# When the exchange-rate cache cannot be seen

The cache exists to save store round trips, not to change answers. The provider without
it, `uncachedStep`, sends every rate request to the store; the cached provider of
`CodeServer.Data.Exchange` answers a hit from the entry of an earlier request.

The two agree on every run from a new provider (`cache_transparent`) when the store is
`Stable`: an answer it gives for one time of a five-minute window it gives for every time
of that window, and an import keeps every answer it already gave. A request for the code
`"everything"` is excluded, since it reads the `GetAllExchangeRates` entries
(`rateKey_eq_allKey_iff`). Errors are never cached, so a store may fail and recover freely.

Without stability the cache is visible: it keeps answering with the rate of the first
request time of a window, and with the rates from before an import, until the budget
evicts the entry.
-/

namespace CodeServer.Data.Exchange

variable {σ Rate Rates : Type}

/-- A store answer as a provider method returns it. -/
def Outcome.ofExcept {α : Type} : Except String α → Outcome α
  | .ok value => .ok value
  | .error message => .error message

/-- What a store must do for the cache to be invisible. -/
structure Stable (store : CurrencyStore σ Rate Rates) : Prop where
  get_bucket {currencies : σ} {code : String} {t t' : Time} {record : Rate} :
    bucket t = bucket t' → store.get currencies code t = .ok record →
      store.get currencies code t' = .ok record
  getAll_bucket {currencies : σ} {t t' : Time} {records : Rates} :
    bucket t = bucket t' → store.getAll currencies t = .ok records →
      store.getAll currencies t' = .ok records
  get_put {currencies currencies' : σ} {data : Rates} {code : String} {t : Time} {record : Rate} :
    store.put currencies data = .ok currencies' → store.get currencies code t = .ok record →
      store.get currencies' code t = .ok record
  getAll_put {currencies currencies' : σ} {data : Rates} {t : Time} {records : Rates} :
    store.put currencies data = .ok currencies' → store.getAll currencies t = .ok records →
      store.getAll currencies' t = .ok records

section Uncached

variable (store : CurrencyStore σ Rate Rates)

/-- One call on the provider with no exchange cache: reads go to the store, an import is
`currencies.Put(data)`, and there is nothing to evict. -/
def uncachedStep (currencies : σ) : Call Rates → Reply Rate Rates × σ
  | .getExchangeRate code t => (.rate (.ofExcept (store.get currencies code t)), currencies)
  | .getAllExchangeRates t => (.rates (.ofExcept (store.getAll currencies t)), currencies)
  | .importExchangeRates data =>
    match store.put currencies data with
    | .error message => (.imported (.error message), currencies)
    | .ok currencies' => (.imported (.ok ()), currencies')
  | .evict _ => (.evicted, currencies)

/-- A sequence of calls on the provider with no exchange cache. -/
def uncachedRun (currencies : σ) : List (Call Rates) → List (Reply Rate Rates) × σ
  | [] => ([], currencies)
  | call :: calls =>
    let first := uncachedStep store currencies call
    let rest := uncachedRun first.2 calls
    (first.1 :: rest.1, rest.2)

/-- An entry under `key` is what the store now answers for the code and time `key` was
built from. -/
def AgreesAt (currencies : σ) (key : String) : Cached Rate Rates → Prop
  | .rate record =>
    ∃ code t, key = rateKey code t ∧ code ≠ "everything" ∧
      store.get currencies code t = .ok record
  | .rates records => ∃ t, key = allKey t ∧ store.getAll currencies t = .ok records

/-- Every entry of the cache agrees with the store. -/
def Agrees (currencies : σ) (cache : Cache (Cached Rate Rates)) : Prop :=
  ∀ key value, cache.retrieve key = some value → AgreesAt store currencies key value

end Uncached

/-! ## The invariant -/

section Agrees

variable {store : CurrencyStore σ Rate Rates} {currencies : σ} {cache : Cache (Cached Rate Rates)}

theorem agrees_empty : Agrees store currencies Cache.empty := by
  simp [Agrees]

theorem Agrees.insert (agrees : Agrees store currencies cache) {key : String}
    {value : Cached Rate Rates} (agreesAt : AgreesAt store currencies key value) :
    Agrees store currencies (cache.insert key value) := by
  intro other stored found
  by_cases same : other = key
  · simp only [Cache.retrieve_insert, same, if_pos, Option.some.injEq] at found
    exact same ▸ found ▸ agreesAt
  · simp only [Cache.retrieve_insert, if_neg same] at found
    exact agrees other stored found

theorem Agrees.evict (agrees : Agrees store currencies cache) (key : String) :
    Agrees store currencies (cache.evict key) := by
  intro other value found
  by_cases same : other = key
  · simp [same] at found
  · simp only [Cache.retrieve_evict, if_neg same] at found
    exact agrees other value found

/-- A successful import keeps every entry in agreement with the store. -/
theorem Agrees.put (stable : Stable store) (agrees : Agrees store currencies cache) {data : Rates}
    {currencies' : σ} (put : store.put currencies data = .ok currencies') :
    Agrees store currencies' cache := by
  intro key value found
  cases value with
  | rate record =>
    obtain ⟨code, t, rfl, notEverything, answer⟩ := agrees _ _ found
    exact ⟨code, t, rfl, notEverything, stable.get_put put answer⟩
  | rates records =>
    obtain ⟨t, rfl, answer⟩ := agrees _ _ found
    exact ⟨t, rfl, stable.getAll_put put answer⟩

end Agrees

/-! ## Each call answers as the store -/

section Calls

variable {store : CurrencyStore σ Rate Rates} (stable : Stable store)
  {dp : DatabaseProvider σ Rate Rates} (agrees : Agrees store dp.currencies dp.exchangeCache)
include stable agrees

/-- `GetExchangeRate` for any code but `"everything"` returns the store's answer and keeps
the cache in agreement. -/
theorem getExchangeRate_agrees {code : String} (notEverything : code ≠ "everything") (t : Time) :
    (getExchangeRate store dp code t).1 = .ofExcept (store.get dp.currencies code t) ∧
      (getExchangeRate store dp code t).2.2.currencies = dp.currencies ∧
      Agrees store dp.currencies (getExchangeRate store dp code t).2.2.exchangeCache := by
  cases found : dp.exchangeCache.retrieve (rateKey code t) with
  | none =>
    cases answer : store.get dp.currencies code t with
    | error message => simpa [getExchangeRate, found, answer, Outcome.ofExcept] using agrees
    | ok record =>
      simp only [getExchangeRate, found, answer, Outcome.ofExcept, true_and]
      exact agrees.insert ⟨code, t, rfl, notEverything, answer⟩
  | some value =>
    cases value with
    | rate record =>
      obtain ⟨code', t', key, -, answer⟩ := agrees _ _ found
      obtain ⟨rfl, same⟩ := rateKey_inj key
      simpa [getExchangeRate, found, stable.get_bucket same.symm answer, Outcome.ofExcept]
        using agrees
    | rates _ =>
      obtain ⟨t', key, -⟩ := agrees _ _ found
      exact absurd ((rateKey_eq_allKey_iff code t t').mp key).1 notEverything

/-- `GetAllExchangeRates` returns the store's answer and keeps the cache in agreement. -/
theorem getAllExchangeRates_agrees (t : Time) :
    (getAllExchangeRates store dp t).1 = .ofExcept (store.getAll dp.currencies t) ∧
      (getAllExchangeRates store dp t).2.2.currencies = dp.currencies ∧
      Agrees store dp.currencies (getAllExchangeRates store dp t).2.2.exchangeCache := by
  cases found : dp.exchangeCache.retrieve (allKey t) with
  | none =>
    cases answer : store.getAll dp.currencies t with
    | error message => simpa [getAllExchangeRates, found, answer, Outcome.ofExcept] using agrees
    | ok records =>
      simp only [getAllExchangeRates, found, answer, Outcome.ofExcept, true_and]
      exact agrees.insert ⟨t, rfl, answer⟩
  | some value =>
    cases value with
    | rates records =>
      obtain ⟨t', key, answer⟩ := agrees _ _ found
      simpa [getAllExchangeRates, found, stable.getAll_bucket (allKey_inj key).symm answer,
        Outcome.ofExcept] using agrees
    | rate _ =>
      obtain ⟨code, t', key, notEverything, -⟩ := agrees _ _ found
      exact absurd ((rateKey_eq_allKey_iff code t' t).mp key.symm).1 notEverything

/-- One call answers as the uncached provider, leaves the store as it does, and keeps the
cache in agreement. -/
theorem step_agrees {call : Call Rates}
    (avoids : ∀ code t, call = .getExchangeRate code t → code ≠ "everything") :
    ((step store dp call).1.reply, (step store dp call).2.currencies) =
        uncachedStep store dp.currencies call ∧
      Agrees store (step store dp call).2.currencies (step store dp call).2.exchangeCache := by
  cases call with
  | getExchangeRate code t =>
    obtain ⟨reply, same, kept⟩ := getExchangeRate_agrees stable agrees (avoids code t rfl) t
    simp only [step, uncachedStep, reply, same, true_and]
    exact same ▸ kept
  | getAllExchangeRates t =>
    obtain ⟨reply, same, kept⟩ := getAllExchangeRates_agrees stable agrees t
    simp only [step, uncachedStep, reply, same, true_and]
    exact same ▸ kept
  | importExchangeRates data =>
    cases put : store.put dp.currencies data with
    | error message => simpa [step, uncachedStep, importExchangeRates, put] using agrees
    | ok currencies' =>
      simpa [step, uncachedStep, importExchangeRates, put] using agrees.put stable put
  | evict key => simpa [step, uncachedStep] using agrees.evict key

end Calls

variable (store : CurrencyStore σ Rate Rates)

theorem run_agrees (stable : Stable store) (calls : List (Call Rates))
    (avoids : ∀ code t, Call.getExchangeRate code t ∈ calls → code ≠ "everything") :
    ∀ {dp : DatabaseProvider σ Rate Rates}, Agrees store dp.currencies dp.exchangeCache →
      ((run store dp calls).1.map Observation.reply, (run store dp calls).2.currencies) =
        uncachedRun store dp.currencies calls := by
  induction calls with
  | nil => simp [run, uncachedRun]
  | cons call calls inductionHypothesis =>
    intro dp agrees
    obtain ⟨first, kept⟩ := step_agrees stable agrees
      fun code t equal => avoids code t (equal ▸ List.mem_cons_self _ _)
    have rest := inductionHypothesis
      (fun code t member => avoids code t (List.mem_cons_of_mem _ member)) kept
    simp only [run, uncachedRun, List.map_cons, ← first, ← rest]

/-- From a new provider, over a stable store, every run answers exactly as the store alone
would and leaves the store in the same state, as long as no `GetExchangeRate` asks for the
code `"everything"`: the cache saves store reads and changes no reply. -/
theorem cache_transparent (stable : Stable store) (currencies : σ) (calls : List (Call Rates))
    (avoids : ∀ code t, Call.getExchangeRate code t ∈ calls → code ≠ "everything") :
    ((run store (.new currencies) calls).1.map Observation.reply,
        (run store (.new currencies) calls).2.currencies) = uncachedRun store currencies calls :=
  run_agrees store stable calls avoids agrees_empty

/-- A store that holds no rates until the first import, and then the imported rate for every
code and time; later imports are accepted and change nothing. -/
def importOnceStore : CurrencyStore (Option Nat) Nat Nat where
  get rates _ _ := match rates with
    | some rate => .ok rate
    | none => .error "rates not imported"
  getAll rates _ := match rates with
    | some rate => .ok rate
    | none => .error "rates not imported"
  put rates data := .ok (some (rates.getD data))

/-- Reads before and after the import that fills the store: the first read fails and is not
cached, the later ones are served from the store and then from the cache, as the uncached
provider answers them. -/
def readsAroundImport : List (Call Nat) :=
  [.getExchangeRate "usd" ⟨0, 0, 0⟩, .importExchangeRates 60, .getExchangeRate "usd" ⟨0, 0, 0⟩,
    .getAllExchangeRates ⟨0, 0, 0⟩, .getExchangeRate "usd" ⟨60, 0, 0⟩]

/-- The store that an import fills is stable, and the cached provider answers the reads around
the import as the uncached one does, the last from the cache. -/
theorem import_once_store_cache_transparent :
    Stable importOnceStore ∧
      (∀ code t, Call.getExchangeRate code t ∈ readsAroundImport → code ≠ "everything") ∧
      ((run importOnceStore (.new none) readsAroundImport).1.map Observation.reply,
        (run importOnceStore (.new none) readsAroundImport).2.currencies) =
          uncachedRun importOnceStore none readsAroundImport ∧
      uncachedRun importOnceStore none readsAroundImport =
        ([.rate (.error "rates not imported"), .imported (.ok ()), .rate (.ok 60), .rates (.ok 60),
          .rate (.ok 60)], some 60) ∧
      (run importOnceStore (.new none) readsAroundImport).1.map
          (fun observation => observation.fetched.isSome) = [false, false, true, true, false] := by
  have stable : Stable importOnceStore := by
    refine ⟨fun _ found => found, fun _ found => found, ?_, ?_⟩ <;> rintro (_ | rate) <;>
      simp [importOnceStore]
  have avoids : ∀ code t, Call.getExchangeRate code t ∈ readsAroundImport → code ≠ "everything" := by
    intro code t member
    simp only [readsAroundImport, List.mem_cons, Call.getExchangeRate.injEq, reduceCtorEq,
      List.mem_singleton, List.not_mem_nil, false_or, or_false] at member
    rcases member with ⟨rfl, -⟩ | ⟨rfl, -⟩ | ⟨rfl, -⟩ <;> decide
  exact ⟨stable, avoids, cache_transparent importOnceStore stable none readsAroundImport avoids,
    by decide, by decide⟩

end CodeServer.Data.Exchange
