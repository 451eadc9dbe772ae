import CveManagement.Ingestion.CircuitBreaker

/-!
# The query engine

`query_cves_for_product`: the local database is asked first; if it has nothing, the
product has a CPE and the circuit of CIRCL is not open, the CIRCL fallback is called
through that circuit, and the local database is asked again. The tiers themselves – the
local query, the lookup of the CPE, and `CirclClient.fetch_and_store` – are parameters, as
are the rows of a result.
-/

namespace CveManagement

/-- `QueryFilters`. -/
structure QueryFilters where
  statuses : Option (List String)
  severity : Option String
  minCvss : Option ℚ
  minEpss : Option ℚ
  confidence : Option String
  page : ℤ
  pageSize : ℤ

/-- The filters of a query that gives none. -/
def QueryFilters.default : QueryFilters := ⟨none, none, none, none, none, 1, 50⟩

/-- The values of `QueryResult.source`. -/
inductive QuerySource
  | localDb
  | localAndCircl
  | localOnly
  deriving DecidableEq, Repr

/-- `QueryResult`, over the rows of a finding. -/
structure QueryResult (ρ : Type) where
  findings : List ρ
  total : ℕ
  page : ℤ
  pageSize : ℤ
  source : QuerySource

/-- **The tiers that the engine calls**, on a store; each of them may raise. -/
structure Tiers (σ ρ : Type) where
  queryFindings : σ → ℕ → QueryFilters → Except String (QueryResult ρ)
  getProductCpe : σ → ℕ → Except String (Option String)
  fetchAndStore : σ → ℕ → String → Except String ℕ × σ

/-- A query. -/
structure Query where
  productId : ℕ
  filters : Option QueryFilters
  enrichExploitability : Bool
  /-- The clock readings of the circuit. -/
  call : CallClock

/-- What a query leaves behind: its result or exception, the circuit of CIRCL, the store,
whether the protected call was invoked, and the result that is handed to the lazy
enrichment, if one is. -/
structure QueryRun (σ ρ : Type) where
  result : Except String (QueryResult ρ)
  circl : Option CircuitBreaker
  store : σ
  invoked : Bool
  enriched : Option (QueryResult ρ)

section Engine

variable {σ ρ : Type} (tiers : Tiers σ ρ)

/-- The call of the fallback, through the circuit if the registry has one. -/
def callCircl (circl : Option CircuitBreaker) (clock : CallClock) (fn : Except String ℕ) :
    Option CircuitBreaker × Bool × Except CallError ℕ :=
  match circl with
  | none => (none, true, fn.mapError .raised)
  | some b =>
    let call := b.call clock fn
    (some call.circuit, call.invoked, call.result)

/-- **`query_cves_for_product`.** -/
def queryCvesForProduct (q : Query) (circl : Option CircuitBreaker) (store : σ) : QueryRun σ ρ :=
  let filters := q.filters.getD .default
  match tiers.queryFindings store q.productId filters with
  | .error e => ⟨.error e, circl, store, false, none⟩
  | .ok result =>
    let localOnly := { result with source := .localOnly }
    if 0 < result.total then
      ⟨.ok result, circl, store, false, if q.enrichExploitability then some result else none⟩
    -- only the state is looked at, not whether the timeout has passed
    else if circl.any fun b => b.state == .opened then
      ⟨.ok localOnly, circl, store, false, none⟩
    else match tiers.getProductCpe store q.productId with
      | .error e => ⟨.error e, circl, store, false, none⟩
      | .ok none => ⟨.ok localOnly, circl, store, false, none⟩
      | .ok (some normalizedCpe) =>
        if normalizedCpe = "" then ⟨.ok localOnly, circl, store, false, none⟩
        else
          let fetched := tiers.fetchAndStore store q.productId normalizedCpe
          let (circl, invoked, outcome) := callCircl circl q.call fetched.1
          let store := if invoked then fetched.2 else store
          match outcome with
          -- whatever the fallback raises, the local result is returned
          | .error _ => ⟨.ok localOnly, circl, store, invoked, none⟩
          | .ok newCount =>
            if newCount = 0 ∧ result.total = 0 then ⟨.ok localOnly, circl, store, invoked, none⟩
            else match tiers.queryFindings store q.productId filters with
              | .error e => ⟨.error e, circl, store, invoked, none⟩
              | .ok refreshed =>
                ⟨.ok { refreshed with source := .localAndCircl }, circl, store, invoked,
                  if q.enrichExploitability then some refreshed else none⟩

end Engine

end CveManagement
