import KrakenSdk.Trade.Error
/-!
# Three readings of a rate-limit code (rate_limit/snap_classify.rs, api/trade/error.rs, rest/retry.rs)

A rejected REST request is read three times: for the tracker to snap to its cap, by every string of the list; for the
`TradeError` and for the retry, by its first. `agree_iff` says for which lists the three say the same.
-/
namespace KrakenSdk.Trade

open KrakenSdk.Conn (strContains strStartsWith)
open KrakenSdk.Rest (RestError RetryDecision RetryPolicy classify classifyKraken)

/-- `SnapTarget` (snap_classify.rs:6). -/
inductive SnapTarget where
  | tradingPair | tradingDomain | api
  deriving DecidableEq, Repr

/-- `classify_rate_limit_snap` (snap_classify.rs:16). -/
def classifyRateLimitSnap (code : String) : Option SnapTarget :=
  if code = "EOrder:Rate limit exceeded" then some .tradingPair
  else if code = "EOrder:Domain rate limit exceeded" then some .tradingDomain
  else if strStartsWith code "EAPI:Rate limit exceeded" || strStartsWith code "EAuth:Rate limit exceeded" ||
      strStartsWith code "EGeneral:Too many requests" || strStartsWith code "EService:Throttled" then some .api
  else none

/-- `classify` says retry for a rate limit. -/
def RetriesRateLimit (d : RetryDecision) : Prop := d = .retry .rateLimitExceeded ∨ d = .retry .serviceThrottled

/-- What the guide promises of a rejection: a tracker is snapped only where the caller hears `RateLimited` and the retry
engine backs off. -/
def Agree (codes : List String) : Prop :=
  (∃ code ∈ codes, classifyRateLimitSnap code ≠ none) →
    (TradeError.ofRestError (.kraken codes)).isRateLimited = true ∧ RetriesRateLimit (classify (.kraken codes) .idempotent)

/-- The prefixes of the general API's codes. -/
def apiPrefixes : List String :=
  ["EAPI:Rate limit exceeded", "EAuth:Rate limit exceeded", "EGeneral:Too many requests", "EService:Throttled"]

/-- A code of the guide's table. -/
def TableCode (code : String) : Prop :=
  code = "EOrder:Rate limit exceeded" ∨ code = "EOrder:Domain rate limit exceeded" ∨
    ∃ start ∈ apiPrefixes, strStartsWith code start = true

/-- A string that all three read as a rate limit; the domain code is spelled `rate limit`, so it needs another of the
words that `is_kraken_rate_limit` looks for. -/
def LimitedHead (code : String) : Prop :=
  (∃ start ∈ "EOrder:Rate limit exceeded" :: apiPrefixes, strStartsWith code start = true) ∨
    strStartsWith code "EOrder:Domain rate limit exceeded" = true ∧
      (strContains code "Rate limit" = true ∨ strContains code "Throttled" = true ∨
        strContains code "Too many requests" = true)

theorem classifyRateLimitSnap_ne_none (code : String) : classifyRateLimitSnap code ≠ none ↔ TableCode code := by
  simp only [classifyRateLimitSnap, TableCode, apiPrefixes]
  by_cases hpair : code = "EOrder:Rate limit exceeded"
  · simp only [if_pos hpair]
    simp [hpair]
  · by_cases hdomain : code = "EOrder:Domain rate limit exceeded"
    · simp only [if_neg hpair, if_pos hdomain]
      simp [hdomain]
    · simp only [if_neg hpair, if_neg hdomain]
      by_cases hapi : (strStartsWith code "EAPI:Rate limit exceeded" || strStartsWith code "EAuth:Rate limit exceeded" ||
          strStartsWith code "EGeneral:Too many requests" || strStartsWith code "EService:Throttled") = true
      · rw [if_pos hapi]
        simpa [hpair, hdomain, or_assoc] using hapi
      · rw [if_neg hapi]
        simpa [hpair, hdomain, not_or, and_assoc] using hapi

theorem retriesRateLimit_iff (code : String) :
    RetriesRateLimit (classifyKraken (some code)) ↔
      (∃ start ∈ "EOrder:Rate limit exceeded" :: apiPrefixes, strStartsWith code start = true) ∨
        strStartsWith code "EOrder:Domain rate limit exceeded" = true := by
  simp only [classifyKraken, apiPrefixes, List.mem_cons, List.not_mem_nil, or_false, exists_eq_or_imp, exists_eq_left]
  -- Which strings are compared does not matter any more.
  generalize strStartsWith code "EAPI:Rate limit exceeded" = api
  generalize strStartsWith code "EAuth:Rate limit exceeded" = auth
  generalize strStartsWith code "EOrder:Rate limit exceeded" = order
  generalize strStartsWith code "EOrder:Domain rate limit exceeded" = domain
  generalize strStartsWith code "EGeneral:Too many requests" = many
  generalize strStartsWith code "EService:Throttled" = throttled
  split_ifs with hapi horder hmany hthrottled hbusy hnonce
  · exact iff_of_true (.inl rfl) (by rw [Bool.or_eq_true] at hapi; tauto)
  · exact iff_of_true (.inl rfl) (by rw [Bool.or_eq_true] at horder; tauto)
  · exact iff_of_true (.inl rfl) (by tauto)
  · exact iff_of_true (.inr rfl) (by tauto)
  all_goals
    rw [Bool.or_eq_true] at hapi horder
    exact iff_of_false (by simp [RetriesRateLimit]) (by tauto)

/-- A string that starts like a code of the table, the domain code apart, contains one of the words. -/
theorem isKrakenRateLimit_of_start {code start : String} (hmem : start ∈ "EOrder:Rate limit exceeded" :: apiPrefixes)
    (h : strStartsWith code start = true) : isKrakenRateLimit code = true := by
  have hword : ∀ start ∈ "EOrder:Rate limit exceeded" :: apiPrefixes,
      ∃ word ∈ ["Rate limit", "Throttled", "Too many requests"], strContains start word = true := by
    decide +kernel
  obtain ⟨word, hword, hcontains⟩ := hword start hmem
  have hcode := strContains_of_startsWith h hcontains
  simp only [isKrakenRateLimit, Bool.or_eq_true]
  simp only [List.mem_cons, List.not_mem_nil, or_false] at hword
  rcases hword with rfl | rfl | rfl
  · exact .inl (.inl hcode)
  · exact .inl (.inr hcode)
  · exact .inr hcode

/-- What the head of the list has to be for the error and the retry to say rate limit. -/
theorem limitedHead_iff (code : String) :
    isKrakenRateLimit code = true ∧ RetriesRateLimit (classifyKraken (some code)) ↔ LimitedHead code := by
  rw [retriesRateLimit_iff, LimitedHead]
  constructor
  · rintro ⟨hlimit, hstart | hdomain⟩
    · exact .inl hstart
    · simp only [isKrakenRateLimit, Bool.or_eq_true, or_assoc] at hlimit
      exact .inr ⟨hdomain, hlimit⟩
  · rintro (⟨start, hmem, hstart⟩ | ⟨hdomain, hword⟩)
    · exact ⟨isKrakenRateLimit_of_start hmem hstart, .inl ⟨start, hmem, hstart⟩⟩
    · refine ⟨?_, .inr hdomain⟩
      simpa only [isKrakenRateLimit, Bool.or_eq_true, or_assoc] using hword

/-- **The three classifiers.** They agree on a list exactly when no string of it is a code of the table, or its head is
one that all three read as a rate limit. -/
theorem agree_iff (codes : List String) (hne : codes ≠ []) :
    Agree codes ↔ (∀ code ∈ codes, ¬ TableCode code) ∨ ∃ head, codes.head? = some head ∧ LimitedHead head := by
  obtain ⟨head, rest, rfl⟩ := List.exists_cons_of_ne_nil hne
  have herror : (TradeError.ofRestError (.kraken (head :: rest))).isRateLimited = isKrakenRateLimit head :=
    isRateLimited_classify head
  have hretry : classify (.kraken (head :: rest)) .idempotent = classifyKraken (some head) := rfl
  simp only [Agree, classifyRateLimitSnap_ne_none, herror, hretry, limitedHead_iff, List.head?_cons, Option.some.injEq,
    exists_eq_left']
  constructor
  · intro h
    by_cases hcode : ∃ code ∈ head :: rest, TableCode code
    · exact .inr (h hcode)
    · exact .inl fun code hmem htable => hcode ⟨code, hmem, htable⟩
  · rintro (hnone | hhead) ⟨code, hmem, htable⟩
    · exact absurd htable (hnone code hmem)
    · exact hhead

/-- A list that the three read alike although its second string is no rate limit. -/
theorem agree_throttled : Agree ["EService:Throttled: 1717200000", "EOrder:Invalid order"] :=
  (agree_iff _ (by decide)).2 (.inr ⟨_, rfl, .inl ⟨"EService:Throttled", by decide, by decide +kernel⟩⟩)

/-- The domain code on its own: every trading counter goes to its cap, and the caller hears of an invalid order. -/
theorem domain_code_disagrees : ¬ Agree ["EOrder:Domain rate limit exceeded"] := by
  intro h
  have hlimited := (h ⟨_, List.mem_cons_self, by decide⟩).1
  revert hlimited
  decide +kernel

end KrakenSdk.Trade
