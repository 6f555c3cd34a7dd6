import CodeServer.Data.Cache
import CodeServer.Go.TimeText

/-!
# The exchange-rate cache

`GetExchangeRate` and `GetAllExchangeRates` share one cache, `exchangeCache`, keyed by
`"<code>:<time>"` and `"everything:<time>"`, where `<time>` is the RFC 3339 text of the
request time truncated to five minutes. A hit is returned through a type assertion, which
panics when the value is of the other kind.

The two key families meet exactly at the code `"everything"` (`rateKey_eq_allKey_iff`).
Every entry is one the store returned under the entry's own code and five-minute text
(`Traced`), and a run keeps that invariant (`run_traced`): the cache never answers with a
record the store did not give for the same code and bucket.
-/

namespace CodeServer.Data.Exchange

/-- The value under an exchange-cache key: `GetExchangeRate` inserts a
`*currency.ExchangeRateRecord`, `GetAllExchangeRates` a `*currency.MultiRateRecord`. -/
inductive Cached (Rate Rates : Type) where
  | rate (record : Rate)
  | rates (record : Rates)
  deriving DecidableEq, Repr

/-- The currency store behind `dp.currencies`, out of the sources: any state `σ` with the
three operations the provider calls. -/
structure CurrencyStore (σ Rate Rates : Type) where
  get : σ → String → Time → Except String Rate
  getAll : σ → Time → Except String Rates
  put : σ → Rates → Except String σ

/-- The fields of `DatabaseProvider` the exchange-rate methods read. -/
structure DatabaseProvider (σ Rate Rates : Type) where
  currencies : σ
  exchangeCache : Cache (Cached Rate Rates)

/-- `NewDatabaseProvider`: the given store and an empty cache. -/
def DatabaseProvider.new {σ Rate Rates : Type} (currencies : σ) :
    DatabaseProvider σ Rate Rates :=
  ⟨currencies, Cache.empty⟩

/-- `5*time.Minute`, in nanoseconds. -/
def fiveMinutes : Nat := 300 * Time.second

/-- `t.Truncate(5*time.Minute).Format(time.RFC3339)`. -/
def bucket (t : Time) : String := (t.truncate fiveMinutes).formatRFC3339

/-- `GetExchangeRate`'s key, `fmt.Sprintf("%s:%s", code, bucket)`. -/
def rateKey (code : String) (t : Time) : String := code ++ ":" ++ bucket t

/-- `GetAllExchangeRates`'s key, `fmt.Sprintf("everything:%s", bucket)`. -/
def allKey (t : Time) : String := "everything:" ++ bucket t

/-- What a call returns: a value, an error, or the panic of a failed type assertion. -/
inductive Outcome (α : Type) where
  | ok (value : α)
  | error (message : String)
  | panic
  deriving DecidableEq, Repr

/-- A call on the provider, or the cache budget evicting a key between calls. -/
inductive Call (Rates : Type) where
  | getExchangeRate (code : String) (t : Time)
  | getAllExchangeRates (t : Time)
  | importExchangeRates (data : Rates)
  | evict (key : String)

/-- A call's reply. -/
inductive Reply (Rate Rates : Type) where
  | rate (outcome : Outcome Rate)
  | rates (outcome : Outcome Rates)
  | imported (outcome : Outcome Unit)
  | evicted
  deriving DecidableEq

/-- A record the uncached store returned: `currencies.Get(code, t)` or
`currencies.GetAll(t)`. -/
inductive Fetch (Rate Rates : Type) where
  | get (code : String) (t : Time) (record : Rate)
  | getAll (t : Time) (record : Rates)

/-- One call of a run: the call, its reply, and the store's answer when it was asked. -/
structure Observation (Rate Rates : Type) where
  call : Call Rates
  reply : Reply Rate Rates
  fetched : Option (Fetch Rate Rates)

/-- Every record the store returned during a run. -/
def fetches {Rate Rates : Type} (history : List (Observation Rate Rates)) :
    List (Fetch Rate Rates) :=
  history.filterMap Observation.fetched

section Calls

variable {σ Rate Rates : Type} (store : CurrencyStore σ Rate Rates)

/-- `GetExchangeRate(ctx, code, t)`, with the store's answer on a miss. -/
def getExchangeRate (dp : DatabaseProvider σ Rate Rates) (code : String) (t : Time) :
    Outcome Rate × Option (Fetch Rate Rates) × DatabaseProvider σ Rate Rates :=
  match dp.exchangeCache.retrieve (rateKey code t) with
  | some (.rate record) => (.ok record, none, dp)
  | some (.rates _) => (.panic, none, dp)
  | none =>
    match store.get dp.currencies code t with
    | .error message => (.error message, none, dp)
    | .ok record =>
      (.ok record, some (.get code t record),
        { dp with exchangeCache := dp.exchangeCache.insert (rateKey code t) (.rate record) })

/-- `GetAllExchangeRates(ctx, t)`, with the store's answer on a miss. -/
def getAllExchangeRates (dp : DatabaseProvider σ Rate Rates) (t : Time) :
    Outcome Rates × Option (Fetch Rate Rates) × DatabaseProvider σ Rate Rates :=
  match dp.exchangeCache.retrieve (allKey t) with
  | some (.rates record) => (.ok record, none, dp)
  | some (.rate _) => (.panic, none, dp)
  | none =>
    match store.getAll dp.currencies t with
    | .error message => (.error message, none, dp)
    | .ok record =>
      (.ok record, some (.getAll t record),
        { dp with exchangeCache := dp.exchangeCache.insert (allKey t) (.rates record) })

/-- `ImportExchangeRates(ctx, data)`: `currencies.Put(data)`; the cache is untouched. -/
def importExchangeRates (dp : DatabaseProvider σ Rate Rates) (data : Rates) :
    Outcome Unit × DatabaseProvider σ Rate Rates :=
  match store.put dp.currencies data with
  | .error message => (.error message, dp)
  | .ok currencies => (.ok (), { dp with currencies })

/-- One call on the provider. -/
def step (dp : DatabaseProvider σ Rate Rates) :
    Call Rates → Observation Rate Rates × DatabaseProvider σ Rate Rates
  | .getExchangeRate code t =>
    let result := getExchangeRate store dp code t
    (⟨.getExchangeRate code t, .rate result.1, result.2.1⟩, result.2.2)
  | .getAllExchangeRates t =>
    let result := getAllExchangeRates store dp t
    (⟨.getAllExchangeRates t, .rates result.1, result.2.1⟩, result.2.2)
  | .importExchangeRates data =>
    let result := importExchangeRates store dp data
    (⟨.importExchangeRates data, .imported result.1, none⟩, result.2)
  | .evict key =>
    (⟨.evict key, .evicted, none⟩, { dp with exchangeCache := dp.exchangeCache.evict key })

/-- A sequence of calls on one provider, with what each call observed. -/
def run (dp : DatabaseProvider σ Rate Rates) :
    List (Call Rates) → List (Observation Rate Rates) × DatabaseProvider σ Rate Rates
  | [] => ([], dp)
  | call :: calls =>
    let first := step store dp call
    let rest := run first.2 calls
    (first.1 :: rest.1, rest.2)

end Calls

/-! ## Keys -/

theorem rateKey_data (code : String) (t : Time) :
    (rateKey code t).data = code.data ++ ':' :: (bucket t).data := by
  simp [rateKey]

/-- `GetAllExchangeRates`'s key is `GetExchangeRate`'s key for the code `"everything"`. -/
theorem allKey_eq_rateKey (t : Time) : allKey t = rateKey "everything" t :=
  String.ext (by simp [allKey, rateKey_data])

/-- A `GetExchangeRate` key determines its code and its five-minute text, for every code,
colons included. -/
theorem rateKey_inj {code code' : String} {t t' : Time}
    (equal : rateKey code t = rateKey code' t') : code = code' ∧ bucket t = bucket t' := by
  have data := congrArg String.data equal
  rw [rateKey_data, rateKey_data] at data
  obtain ⟨codes, buckets⟩ := RFC3339Shape.prefix_colon_injective
    (Time.formatRFC3339_shape _) (Time.formatRFC3339_shape _) data
  exact ⟨String.ext codes, String.ext buckets⟩

theorem allKey_inj {t t' : Time} (equal : allKey t = allKey t') : bucket t = bucket t' := by
  rw [allKey_eq_rateKey, allKey_eq_rateKey] at equal
  exact (rateKey_inj equal).2

/-- Two request times share their five-minute text exactly when they share their five-minute
window: the same truncated instant at the same zone offset. -/
theorem bucket_eq_iff (t t' : Time) :
    bucket t = bucket t' ↔ t.truncate fiveMinutes = t'.truncate fiveMinutes :=
  ⟨Time.truncate_formatRFC3339_inj (Dvd.intro_left 300 rfl) (by decide),
    fun same => by rw [bucket, bucket, same]⟩

/-- Two requests share an exchange-cache key exactly when they ask for the same code, or both
for all rates, in the same five-minute window: the same truncated instant at the same zone
offset. -/
theorem cache_keys_identify_windows :
    (∀ code code' t t', rateKey code t = rateKey code' t' ↔
      code = code' ∧ t.truncate fiveMinutes = t'.truncate fiveMinutes) ∧
    ∀ t t', allKey t = allKey t' ↔ t.truncate fiveMinutes = t'.truncate fiveMinutes := by
  refine ⟨fun code code' t t' => ⟨fun same => ?_, ?_⟩, fun t t' => ⟨fun same => ?_, ?_⟩⟩
  · obtain ⟨codes, buckets⟩ := rateKey_inj same
    exact ⟨codes, (bucket_eq_iff t t').mp buckets⟩
  · rintro ⟨rfl, window⟩
    simp only [rateKey, (bucket_eq_iff t t').mpr window]
  · exact (bucket_eq_iff t t').mp (allKey_inj same)
  · intro window
    simp only [allKey, (bucket_eq_iff t t').mpr window]

/-- The two key families of the shared cache meet exactly at the code `"everything"`. -/
theorem rateKey_eq_allKey_iff (code : String) (t t' : Time) :
    rateKey code t = allKey t' ↔ code = "everything" ∧ bucket t = bucket t' := by
  rw [allKey_eq_rateKey]
  constructor
  · exact rateKey_inj
  · rintro ⟨rfl, same⟩
    simp [rateKey, same]

/-! ## Every entry comes from the store under its own key -/

section Traced

variable {σ Rate Rates : Type}

/-- A cached value under `key` is a record the store returned for the code and time the key
was built from. -/
def TracedAt (fetched : List (Fetch Rate Rates)) (key : String) : Cached Rate Rates → Prop
  | .rate record => ∃ code t, key = rateKey code t ∧ Fetch.get code t record ∈ fetched
  | .rates record => ∃ t, key = allKey t ∧ Fetch.getAll t record ∈ fetched

/-- The cache invariant: every entry is traced to a store answer. -/
def Traced (fetched : List (Fetch Rate Rates)) (cache : Cache (Cached Rate Rates)) : Prop :=
  ∀ key value, cache.retrieve key = some value → TracedAt fetched key value

theorem traced_empty (fetched : List (Fetch Rate Rates)) : Traced fetched Cache.empty := by
  simp [Traced]

theorem TracedAt.mono {fetched more : List (Fetch Rate Rates)} {key : String}
    {value : Cached Rate Rates} (traced : TracedAt fetched key value)
    (sub : fetched ⊆ more) : TracedAt more key value := by
  cases value with
  | rate record =>
    obtain ⟨code, t, rfl, member⟩ := traced
    exact ⟨code, t, rfl, sub member⟩
  | rates record =>
    obtain ⟨t, rfl, member⟩ := traced
    exact ⟨t, rfl, sub member⟩

theorem Traced.mono {fetched more : List (Fetch Rate Rates)} {cache : Cache (Cached Rate Rates)}
    (traced : Traced fetched cache) (sub : fetched ⊆ more) : Traced more cache :=
  fun key value found => (traced key value found).mono sub

theorem Traced.insert {fetched : List (Fetch Rate Rates)} {cache : Cache (Cached Rate Rates)}
    {key : String} {value : Cached Rate Rates} (traced : Traced fetched cache)
    (tracedAt : TracedAt fetched key value) : Traced fetched (cache.insert key value) := by
  intro other stored found
  rw [Cache.retrieve_insert] at found
  split at found
  · cases found
    subst other
    exact tracedAt
  · exact traced other _ found

theorem Traced.evict {fetched : List (Fetch Rate Rates)} {cache : Cache (Cached Rate Rates)}
    (traced : Traced fetched cache) (key : String) : Traced fetched (cache.evict key) := by
  intro other stored found
  rw [Cache.retrieve_evict] at found
  split at found
  · cases found
  · exact traced other _ found

@[simp] theorem fetches_nil : fetches ([] : List (Observation Rate Rates)) = [] := rfl

@[simp] theorem fetches_cons (first : Observation Rate Rates) (rest : List (Observation Rate Rates)) :
    fetches (first :: rest) = first.fetched.toList ++ fetches rest := by
  cases found : first.fetched <;> simp [fetches, found]

variable (store : CurrencyStore σ Rate Rates)

/-- One call keeps every entry traced, counting the store's answer in that call. -/
theorem step_traced {fetched : List (Fetch Rate Rates)} {dp : DatabaseProvider σ Rate Rates}
    (traced : Traced fetched dp.exchangeCache) (call : Call Rates) :
    Traced (fetched ++ (step store dp call).1.fetched.toList)
      (step store dp call).2.exchangeCache := by
  cases call with
  | getExchangeRate code t =>
    simp only [step, getExchangeRate]
    split
    · simpa using traced
    · simpa using traced
    · split
      · simpa using traced
      · exact (traced.mono (by simp)).insert ⟨code, t, rfl, by simp⟩
  | getAllExchangeRates t =>
    simp only [step, getAllExchangeRates]
    split
    · simpa using traced
    · simpa using traced
    · split
      · simpa using traced
      · exact (traced.mono (by simp)).insert ⟨t, rfl, by simp⟩
  | importExchangeRates data =>
    simp only [step, importExchangeRates]
    split <;> simpa using traced
  | evict key => simpa [step] using traced.evict key

/-- A whole run keeps every entry traced to the store's answers in that run. -/
theorem run_traced {fetched : List (Fetch Rate Rates)} (calls : List (Call Rates)) :
    ∀ {dp : DatabaseProvider σ Rate Rates}, Traced fetched dp.exchangeCache →
      Traced (fetched ++ fetches (run store dp calls).1) (run store dp calls).2.exchangeCache := by
  induction calls generalizing fetched with
  | nil => simp [run]
  | cons call calls inductionHypothesis =>
    intro dp traced
    simpa [run] using inductionHypothesis (step_traced store traced call)

/-- A record `GetExchangeRate` returns is one the store returned for the same code and the
same five-minute text, in an earlier call or in this one. -/
theorem getExchangeRate_ok {fetched : List (Fetch Rate Rates)} {dp : DatabaseProvider σ Rate Rates}
    (traced : Traced fetched dp.exchangeCache) {code : String} {t : Time} {record : Rate}
    (returned : (getExchangeRate store dp code t).1 = .ok record) :
    ∃ t', bucket t' = bucket t ∧ (Fetch.get code t' record ∈ fetched ∨
      (getExchangeRate store dp code t).2.1 = some (.get code t' record)) := by
  cases found : dp.exchangeCache.retrieve (rateKey code t) with
  | none =>
    cases answer : store.get dp.currencies code t with
    | error message => simp [getExchangeRate, found, answer] at returned
    | ok fetchedRecord =>
      simp only [getExchangeRate, found, answer, Outcome.ok.injEq] at returned ⊢
      exact ⟨t, rfl, .inr (by rw [returned])⟩
  | some value =>
    cases value with
    | rate cachedRecord =>
      simp only [getExchangeRate, found, Outcome.ok.injEq] at returned
      obtain ⟨code', t', key, member⟩ := traced _ _ found
      obtain ⟨rfl, same⟩ := rateKey_inj key
      exact ⟨t', same.symm, .inl (returned ▸ member)⟩
    | rates _ => simp [getExchangeRate, found] at returned

/-- A record `GetAllExchangeRates` returns is one the store returned for the same
five-minute text, in an earlier call or in this one. -/
theorem getAllExchangeRates_ok {fetched : List (Fetch Rate Rates)}
    {dp : DatabaseProvider σ Rate Rates} (traced : Traced fetched dp.exchangeCache) {t : Time}
    {records : Rates} (returned : (getAllExchangeRates store dp t).1 = .ok records) :
    ∃ t', bucket t' = bucket t ∧ (Fetch.getAll t' records ∈ fetched ∨
      (getAllExchangeRates store dp t).2.1 = some (.getAll t' records)) := by
  cases found : dp.exchangeCache.retrieve (allKey t) with
  | none =>
    cases answer : store.getAll dp.currencies t with
    | error message => simp [getAllExchangeRates, found, answer] at returned
    | ok fetchedRecords =>
      simp only [getAllExchangeRates, found, answer, Outcome.ok.injEq] at returned ⊢
      exact ⟨t, rfl, .inr (by rw [returned])⟩
  | some value =>
    cases value with
    | rates cachedRecords =>
      simp only [getAllExchangeRates, found, Outcome.ok.injEq] at returned
      obtain ⟨t', key, member⟩ := traced _ _ found
      exact ⟨t', (allKey_inj key).symm, .inl (returned ▸ member)⟩
    | rate _ => simp [getAllExchangeRates, found] at returned

/-- Every record the cached provider returns, after any sequence of calls from a new
provider and for any store, is one the uncached store returned for the same currency code
and the same five-minute text, in an earlier call or in this one. -/
theorem cached_rates_refine_store (currencies : σ) (calls : List (Call Rates)) (code : String)
    (t : Time) :
    let before := run store (.new currencies) calls
    (∀ record, (getExchangeRate store before.2 code t).1 = .ok record →
      ∃ t', bucket t' = bucket t ∧ (Fetch.get code t' record ∈ fetches before.1 ∨
        (getExchangeRate store before.2 code t).2.1 = some (.get code t' record))) ∧
    (∀ records, (getAllExchangeRates store before.2 t).1 = .ok records →
      ∃ t', bucket t' = bucket t ∧ (Fetch.getAll t' records ∈ fetches before.1 ∨
        (getAllExchangeRates store before.2 t).2.1 = some (.getAll t' records))) := by
  intro before
  have traced : Traced (fetches before.1) before.2.exchangeCache := by
    simpa using @run_traced σ Rate Rates store [] calls _ (traced_empty [])
  exact ⟨fun _ => getExchangeRate_ok store traced, fun _ => getAllExchangeRates_ok store traced⟩

/-! ## Which type assertions can fail -/

theorem getExchangeRate_fetched {dp : DatabaseProvider σ Rate Rates} {code : String} {t : Time}
    {fetch : Fetch Rate Rates} (fetched : (getExchangeRate store dp code t).2.1 = some fetch) :
    ∃ record, fetch = .get code t record := by
  simp only [getExchangeRate] at fetched
  split at fetched
  · cases fetched
  · cases fetched
  · split at fetched
    · cases fetched
    · exact ⟨_, (Option.some.inj fetched).symm⟩

/-- The store is asked for a currency code only by `GetExchangeRate` with that code. -/
theorem step_fetched_get {dp : DatabaseProvider σ Rate Rates} {call : Call Rates} {code : String}
    {t : Time} {record : Rate} (fetched : (step store dp call).1.fetched = some (.get code t record)) :
    call = .getExchangeRate code t := by
  cases call with
  | getExchangeRate code' t' =>
    obtain ⟨_, equal⟩ := getExchangeRate_fetched store fetched
    cases equal
    rfl
  | getAllExchangeRates t' =>
    simp only [step, getAllExchangeRates] at fetched
    split at fetched
    · cases fetched
    · cases fetched
    · split at fetched <;> cases fetched
  | importExchangeRates data => cases fetched
  | evict key => cases fetched

theorem getExchangeRate_not_panic {fetched : List (Fetch Rate Rates)}
    {dp : DatabaseProvider σ Rate Rates} (traced : Traced fetched dp.exchangeCache) {code : String}
    (notEverything : code ≠ "everything") (t : Time) :
    (getExchangeRate store dp code t).1 ≠ .panic := by
  cases found : dp.exchangeCache.retrieve (rateKey code t) with
  | none =>
    cases answer : store.get dp.currencies code t <;> simp [getExchangeRate, found, answer]
  | some value =>
    cases value with
    | rate _ => simp [getExchangeRate, found]
    | rates _ =>
      obtain ⟨t', key, -⟩ := traced _ _ found
      exact absurd ((rateKey_eq_allKey_iff code t t').mp key).1 notEverything

theorem getAllExchangeRates_not_panic {fetched : List (Fetch Rate Rates)}
    {dp : DatabaseProvider σ Rate Rates} (traced : Traced fetched dp.exchangeCache)
    (noEverything : ∀ t record, Fetch.get "everything" t record ∉ fetched) (t : Time) :
    (getAllExchangeRates store dp t).1 ≠ .panic := by
  cases found : dp.exchangeCache.retrieve (allKey t) with
  | none =>
    cases answer : store.getAll dp.currencies t <;> simp [getAllExchangeRates, found, answer]
  | some value =>
    cases value with
    | rates _ => simp [getAllExchangeRates, found]
    | rate _ =>
      obtain ⟨code, t', key, member⟩ := traced _ _ found
      obtain ⟨rfl, -⟩ := (rateKey_eq_allKey_iff code t' t).mp key.symm
      exact absurd member (noEverything _ _)

/-- A call's reply is not a panic while the cache is traced, no store answer so far was for
the code `"everything"`, and the call does not ask for it. -/
theorem step_not_panic {fetched : List (Fetch Rate Rates)} {dp : DatabaseProvider σ Rate Rates}
    (traced : Traced fetched dp.exchangeCache)
    (noEverything : ∀ t record, Fetch.get "everything" t record ∉ fetched) {call : Call Rates}
    (avoids : ∀ code t, call = .getExchangeRate code t → code ≠ "everything") :
    (step store dp call).1.reply ≠ .rate .panic ∧ (step store dp call).1.reply ≠ .rates .panic := by
  cases call with
  | getExchangeRate code t =>
    simpa [step] using getExchangeRate_not_panic store traced (avoids code t rfl) t
  | getAllExchangeRates t => simpa [step] using getAllExchangeRates_not_panic store traced noEverything t
  | importExchangeRates data => simp [step]
  | evict key => simp [step]

/-- No call of a run panics, as long as no `GetExchangeRate` of the run asks for the code
`"everything"`. -/
theorem run_not_panic {fetched : List (Fetch Rate Rates)} (calls : List (Call Rates))
    (avoids : ∀ code t, Call.getExchangeRate code t ∈ calls → code ≠ "everything") :
    ∀ {dp : DatabaseProvider σ Rate Rates}, Traced fetched dp.exchangeCache →
      (∀ t record, Fetch.get "everything" t record ∉ fetched) →
      ∀ observation ∈ (run store dp calls).1,
        observation.reply ≠ .rate .panic ∧ observation.reply ≠ .rates .panic := by
  induction calls generalizing fetched with
  | nil => simp [run]
  | cons call calls inductionHypothesis =>
    intro dp traced noEverything observation member
    have avoidsHere : ∀ code t, call = .getExchangeRate code t → code ≠ "everything" :=
      fun code t equal => avoids code t (equal ▸ List.mem_cons_self _ _)
    simp only [run, List.mem_cons] at member
    rcases member with rfl | member
    · exact step_not_panic store traced noEverything avoidsHere
    · refine inductionHypothesis (fun code t member => avoids code t (List.mem_cons_of_mem _ member))
        (step_traced store traced call) ?_ observation member
      intro t record fetchedNow
      rcases List.mem_append.mp fetchedNow with old | new
      · exact noEverything t record old
      · exact avoidsHere _ t (step_fetched_get store (Option.mem_toList.mp new)) rfl

end Traced

/-- A currency store that answers every request, for the runs below. -/
def fixedStore : CurrencyStore Unit Nat Nat :=
  ⟨fun _ _ _ => .ok 1, fun _ _ => .ok 60, fun _ _ => .ok ()⟩

theorem cached_rate_served_from_store :
    (getExchangeRate fixedStore (run fixedStore (.new ()) [.getExchangeRate "usd" ⟨0, 0, 0⟩]).2
        "usd" ⟨0, 0, 0⟩).1 = .ok 1 ∧
    ∃ t', bucket t' = bucket ⟨0, 0, 0⟩ ∧
      (Fetch.get "usd" t' 1 ∈ fetches (run fixedStore (.new ()) [.getExchangeRate "usd" ⟨0, 0, 0⟩]).1 ∨
        (getExchangeRate fixedStore (run fixedStore (.new ()) [.getExchangeRate "usd" ⟨0, 0, 0⟩]).2
          "usd" ⟨0, 0, 0⟩).2.1 = some (.get "usd" t' 1)) := by
  have served : (getExchangeRate fixedStore (run fixedStore (.new ()) [.getExchangeRate "usd" ⟨0, 0, 0⟩]).2
      "usd" ⟨0, 0, 0⟩).1 = .ok 1 := by
    simp [run, step, getExchangeRate, fixedStore, DatabaseProvider.new]
  exact ⟨served, (cached_rates_refine_store fixedStore () _ "usd" ⟨0, 0, 0⟩).1 1 served⟩

/-- The key families of the shared cache coincide exactly for the code `"everything"`, and
in every run that never asks `GetExchangeRate` for that code no type assertion fails. -/
theorem exchange_keys_disjoint_except_everything :
    (∀ code t t', rateKey code t = allKey t' ↔ code = "everything" ∧ bucket t = bucket t') ∧
    ∀ {σ Rate Rates : Type} (store : CurrencyStore σ Rate Rates) (currencies : σ)
      (calls : List (Call Rates)),
      (∀ code t, Call.getExchangeRate code t ∈ calls → code ≠ "everything") →
      ∀ observation ∈ (run store (.new currencies) calls).1,
        observation.reply ≠ .rate .panic ∧ observation.reply ≠ .rates .panic :=
  ⟨rateKey_eq_allKey_iff, fun store _ calls avoids =>
    run_not_panic store calls avoids (traced_empty []) (by simp)⟩

/-- The rate of `"usd"` at the zero time, all rates then, and the rate of `"usd"` a minute
later, in the same five-minute window. -/
def usdTwiceAndAllRates : List (Call Nat) :=
  [.getExchangeRate "usd" ⟨0, 0, 0⟩, .getAllExchangeRates ⟨0, 0, 0⟩,
    .getExchangeRate "usd" ⟨60, 0, 0⟩]

/-- The second `"usd"` request hits the entry of the first, and no reply panics. -/
theorem usd_then_all_rates_never_panic :
    (∀ code t, Call.getExchangeRate code t ∈ usdTwiceAndAllRates → code ≠ "everything") ∧
    (∀ observation ∈ (run fixedStore (.new ()) usdTwiceAndAllRates).1,
      observation.reply ≠ .rate .panic ∧ observation.reply ≠ .rates .panic) ∧
    (run fixedStore (.new ()) usdTwiceAndAllRates).1.map
        (fun observation => (observation.reply, observation.fetched.isSome)) =
      [(.rate (.ok 1), true), (.rates (.ok 60), true), (.rate (.ok 1), false)] := by
  have avoids : ∀ code t, Call.getExchangeRate code t ∈ usdTwiceAndAllRates →
      code ≠ "everything" := by
    intro code t member
    simp only [usdTwiceAndAllRates, List.mem_cons, Call.getExchangeRate.injEq, reduceCtorEq,
      List.mem_singleton, List.not_mem_nil, false_or, or_false] at member
    rcases member with ⟨rfl, -⟩ | ⟨rfl, -⟩ <;> decide
  exact ⟨avoids, exchange_keys_disjoint_except_everything.2 fixedStore () _ avoids, by decide⟩

/-- `GetExchangeRate` for the code `"everything"` reads the entry `GetAllExchangeRates`
stored for the same five minutes, and its type assertion panics. -/
theorem everything_code_hits_all_rates_entry :
    rateKey "everything" ⟨0, 0, 0⟩ = allKey ⟨0, 0, 0⟩ ∧
    (run fixedStore (.new ())
        [.getAllExchangeRates ⟨0, 0, 0⟩, .getExchangeRate "everything" ⟨0, 0, 0⟩]).1.map
      Observation.reply = [.rates (.ok 60), .rate .panic] := by
  refine ⟨(allKey_eq_rateKey _).symm, ?_⟩
  simp [run, step, getAllExchangeRates, getExchangeRate, fixedStore, DatabaseProvider.new,
    allKey_eq_rateKey]

end CodeServer.Data.Exchange
