import CryptoScanner.Performance.Engine.Metrics

/-!
# Normalising metrics again

A map is clean where normalising its texts and client checks changes nothing.  The rates are derived
from counts that they do not change, or from each other and then both are there.
-/

namespace CryptoScanner.Performance

open Library Python

/-! ## 1. Entries -/

theorem Dict.get_set (key other : String) (value : Json) (d : Dict) :
    Dict.get (Library.Dict.set key value d) other = if other = key then value else d.get other := by
  unfold Dict.get
  rw [Library.Dict.lookup_set]
  by_cases h : other = key
  · rw [if_pos h, if_pos h]
    rfl
  · rw [if_neg h, if_neg h]

theorem Dict.get_setdefault (key other : String) (value : Json) (d : Dict) :
    Dict.get (Library.Dict.setdefault key value d) other =
      if other = key then (d.lookup key).getD value else d.get other := by
  unfold Dict.get
  rw [Library.Dict.lookup_setdefault]
  by_cases h : other = key
  · rw [if_pos h, if_pos h]
    rfl
  · rw [if_neg h, if_neg h]

theorem Dict.get_of_lookup {d d' : Dict} {key : String} (h : d.lookup key = d'.lookup key) :
    d.get key = d'.get key := by
  rw [Dict.get, Dict.get, h]

theorem Dict.lookup_of_get {d : Dict} {key : String} {value : Json} (h : d.get key = value)
    (hne : value ≠ .null) : d.lookup key = some value := by
  unfold Dict.get at h
  cases hlookup : d.lookup key with
  | none =>
      rw [hlookup] at h
      exact absurd h.symm hne
  | some found =>
      rw [hlookup] at h
      exact congrArg some h

theorem Dict.mem_of_get {d : Dict} {key : String} {value : Json} (h : d.get key = value)
    (hne : value ≠ .null) : (key, value) ∈ d := by
  obtain ⟨before, after, rfl, -⟩ := List.lookup_eq_some_iff.mp (Dict.lookup_of_get h hne)
  exact List.mem_append_right _ List.mem_cons_self

namespace Engine

/-! ## 2. Counts -/

theorem ofRat_num {q : ℚ} (hden : q.den = 1) : ((q.num : Int) : ℚ) = q :=
  Rat.coe_int_num_of_den_eq_one hden

theorem number_totalJson {total : PyFloat} (h : total.IsDouble) :
    number (totalJson total) = .ok (some total) := by
  cases total with
  | finite q =>
      by_cases hden : q.den = 1
      · have hq : PyFloat.ofRat ((q.num : Int) : ℚ) = .finite q := by
          rw [ofRat_num hden]
          exact h
        have hsize : ¬ Oversized q.num := by
          rw [Oversized, hq]
          simp
        rw [totalJson, if_pos hden, number, if_neg hsize, hq]
      · rw [totalJson, if_neg hden]
        rfl
  | inf | negInf | nan => rfl

/-- The floats of a map are doubles. -/
def Doubles (metrics : Dict) : Prop := ∀ key x, metrics.get key = .float x → x.IsDouble

theorem isDouble_of_number {metrics : Dict} (hdoubles : Doubles metrics) {key : String}
    {x : PyFloat} (h : number (metrics.get key) = .ok (some x)) : x.IsDouble := by
  cases hget : metrics.get key with
  | int n =>
      rw [hget, number] at h
      by_cases hsize : Oversized n
      · rw [if_pos hsize] at h
        cases h
      · rw [if_neg hsize] at h
        cases h
        exact PyFloat.isDouble_ofRat n
  | float y =>
      rw [hget] at h
      cases h
      exact hdoubles key _ hget
  | null | bool | str | list | dict =>
      rw [hget] at h
      cases h

theorem isDouble_of_numberOr {metrics : Dict} (hdoubles : Doubles metrics) {key other : String}
    {x : PyFloat} (h : numberOr metrics key other = .ok (some x)) : x.IsDouble := by
  rw [numberOr, bind_eq_ok] at h
  obtain ⟨value, hfirst, h⟩ := h
  cases value with
  | none => exact isDouble_of_number hdoubles h
  | some value =>
      dsimp only at h
      by_cases hzero : value = zero
      · rw [if_pos hzero] at h
        exact isDouble_of_number hdoubles h
      · rw [if_neg hzero] at h
        cases h
        exact isDouble_of_number hdoubles hfirst

theorem readCounts_eq_ok {metrics : Dict} {keys : CountKeys} {counts : Counts}
    (h : readCounts metrics keys = .ok counts) :
    number (metrics.get keys.successful) = .ok counts.success ∧
      number (metrics.get keys.failed) = .ok counts.failed ∧
        numberOr metrics keys.total keys.attempted = .ok counts.total := by
  simp only [readCounts, bind_eq_ok] at h
  obtain ⟨success, hsuccess, failed, hfailed, total, htotal, h⟩ := h
  cases h
  exact ⟨hsuccess, hfailed, htotal⟩

theorem Counts.rate_eq_some {counts : Counts} {success total : PyFloat}
    (h : counts.rate = some (success, total)) :
    counts.success = some success ∧
      total = counts.total.getD (success.add (counts.failed.getD zero)) ∧
        zero.lt total = true := by
  unfold Counts.rate at h
  cases hsuccess : counts.success with
  | none =>
      rw [hsuccess] at h
      cases h
  | some s =>
      rw [hsuccess] at h
      dsimp only at h
      by_cases hpos : zero.lt (counts.total.getD (s.add (counts.failed.getD zero))) = true
      · rw [if_pos hpos] at h
        cases h
        exact ⟨rfl, rfl, hpos⟩
      · rw [if_neg hpos] at h
        cases h

theorem isDouble_total {metrics : Dict} (hdoubles : Doubles metrics) {keys : CountKeys}
    {counts : Counts} {success total : PyFloat} (h : readCounts metrics keys = .ok counts)
    (hrate : counts.rate = some (success, total)) : total.IsDouble := by
  obtain ⟨-, -, htotal⟩ := readCounts_eq_ok h
  obtain ⟨-, hsum, -⟩ := Counts.rate_eq_some hrate
  cases hcount : counts.total with
  | none =>
      rw [hcount] at hsum
      rw [hsum]
      exact PyFloat.isDouble_add _ _
  | some t =>
      rw [hcount] at htotal hsum
      rw [hsum]
      exact isDouble_of_numberOr hdoubles htotal

/-- The counts are those of the other map, or the total is there now. -/
structure Recounted (total : PyFloat) (keys : CountKeys) (metrics metrics' : Dict) : Prop where
  successful : metrics'.get keys.successful = metrics.get keys.successful
  failed : metrics'.get keys.failed = metrics.get keys.failed
  attempted : metrics'.get keys.attempted = metrics.get keys.attempted
  total : metrics'.get keys.total = metrics.get keys.total ∨
    metrics'.get keys.total = totalJson total

theorem Recounted.readCounts {total : PyFloat} {keys : CountKeys} {metrics metrics' : Dict}
    {counts : Counts} (h : Recounted total keys metrics metrics') (htotal : total.IsDouble)
    (hpos : zero.lt total = true) (hcounts : readCounts metrics keys = .ok counts) :
    ∃ counts', readCounts metrics' keys = .ok counts' ∧ counts'.success = counts.success ∧
      counts'.failed = counts.failed ∧
        (counts'.total = counts.total ∨ counts'.total = some total) := by
  obtain ⟨hsuccess, hfailed, hnumber⟩ := readCounts_eq_ok hcounts
  have hne : total ≠ zero := by
    intro heq
    rw [heq] at hpos
    exact absurd hpos (by decide)
  have hread : ∀ total', numberOr metrics' keys.total keys.attempted = .ok total' →
      Engine.readCounts metrics' keys = .ok ⟨counts.success, counts.failed, total'⟩ := by
    intro total' htotal'
    unfold Engine.readCounts
    rw [h.successful, h.failed, hsuccess, hfailed, htotal']
    rfl
  rcases h.total with hsame | hset
  · refine ⟨_, hread counts.total ?_, rfl, rfl, .inl rfl⟩
    rw [← hnumber, numberOr, numberOr, hsame, h.attempted]
  · refine ⟨_, hread (some total) ?_, rfl, rfl, .inr rfl⟩
    rw [numberOr, hset, number_totalJson htotal]
    simp only [bind, Except.bind, if_neg hne, pure, Except.pure]

theorem Counts.rate_again {counts counts' : Counts} {success total : PyFloat}
    (h : counts.rate = some (success, total)) (hsuccess : counts'.success = counts.success)
    (hfailed : counts'.failed = counts.failed)
    (htotal : counts'.total = counts.total ∨ counts'.total = some total) :
    counts'.rate = some (success, total) := by
  obtain ⟨hs, hsum, hpos⟩ := Counts.rate_eq_some h
  have hsame : counts'.total.getD (success.add (counts'.failed.getD zero)) = total := by
    rcases htotal with heq | heq
    · rw [heq, hfailed, ← hsum]
    · rw [heq]
      rfl
  rw [Counts.rate, hsuccess, hs]
  dsimp only
  rw [hsame, if_pos hpos]

/-- The rate is counted from the same numbers the next time. -/
theorem countedRate_again {metrics metrics' : Dict} {success total : PyFloat}
    (hdoubles : Doubles metrics) (h : countedRate metrics = .ok (some (success, total)))
    (hhandshakes : Recounted total handshakeKeys metrics metrics')
    (hnegotiations : Recounted total negotiationKeys metrics metrics') :
    countedRate metrics' = .ok (some (success, total)) := by
  rw [countedRate, bind_eq_ok] at h
  obtain ⟨handshakes, hread, h⟩ := h
  by_cases hnone : handshakes.success = none
  · rw [if_pos hnone, bind_eq_ok] at h
    obtain ⟨negotiations, hread', h⟩ := h
    have hrate : negotiations.rate = some (success, total) := Except.ok.inj h
    have htotal := isDouble_total hdoubles hread' hrate
    obtain ⟨-, -, hpos⟩ := Counts.rate_eq_some hrate
    obtain ⟨again, hagain, hsuccess, -⟩ := hhandshakes.readCounts htotal hpos hread
    obtain ⟨again', hagain', hsuccess', hfailed', htotal'⟩ :=
      hnegotiations.readCounts htotal hpos hread'
    rw [← hsuccess] at hnone
    simp only [countedRate, hagain, hagain', bind, Except.bind, if_pos hnone]
    exact congrArg Except.ok (Counts.rate_again hrate hsuccess' hfailed' htotal')
  · rw [if_neg hnone] at h
    have hrate : handshakes.rate = some (success, total) := Except.ok.inj h
    have htotal := isDouble_total hdoubles hread hrate
    obtain ⟨-, -, hpos⟩ := Counts.rate_eq_some hrate
    obtain ⟨again, hagain, hsuccess, hfailed, htotal'⟩ := hhandshakes.readCounts htotal hpos hread
    rw [← hsuccess] at hnone
    simp only [countedRate, hagain, bind, Except.bind, if_neg hnone]
    exact congrArg Except.ok (Counts.rate_again hrate hsuccess hfailed htotal')

/-! ## 3. Rates -/

def rateKeys (successKey : String) : List String :=
  [successKey, "availability_success_rate", "failure_rate", totalKey successKey]

section

variable {successKey : String} {success total : PyFloat}

theorem lookup_setCountedRate {key : String} (h : key ∉ rateKeys successKey) (metrics : Dict) :
    (setCountedRate successKey success total metrics).lookup key = metrics.lookup key := by
  simp only [rateKeys, List.mem_cons, List.not_mem_nil, or_false, not_or] at h
  unfold setCountedRate
  dsimp only
  rw [Library.Dict.lookup_setdefault, if_neg h.2.2.2, Library.Dict.lookup_setdefault,
    if_neg h.2.2.1, Library.Dict.lookup_set, if_neg h.2.1, Library.Dict.lookup_set, if_neg h.1]

theorem lookups_setCountedRate (success total : PyFloat) (h : successKey =
    "negotiation_success_rate" ∨ successKey = "handshake_success_rate") (metrics : Dict) :
    let successRate := clampRate (success.div total)
    let rounded := some (Json.float (successRate.round 4))
    let failureRate := Json.float ((clampRate (one.sub successRate)).round 4)
    let rated := setCountedRate successKey success total metrics
    rated.lookup successKey = rounded ∧ rated.lookup "availability_success_rate" = rounded ∧
      rated.lookup "failure_rate" = some ((metrics.lookup "failure_rate").getD failureRate) ∧
        rated.lookup (totalKey successKey) =
          some ((metrics.lookup (totalKey successKey)).getD (totalJson total)) := by
  dsimp only
  unfold setCountedRate
  rcases h with rfl | rfl
  · simp [Library.Dict.lookup_setdefault, Library.Dict.lookup_set, totalKey, negotiationKeys]
  · simp [Library.Dict.lookup_setdefault, Library.Dict.lookup_set, totalKey, handshakeKeys]

theorem setCountedRate_again (h : successKey = "negotiation_success_rate" ∨
    successKey = "handshake_success_rate") (metrics : Dict) :
    setCountedRate successKey success total (setCountedRate successKey success total metrics) =
      setCountedRate successKey success total metrics := by
  obtain ⟨hsuccess, havailability, hfailure, htotal⟩ :=
    lookups_setCountedRate success total h metrics
  generalize setCountedRate successKey success total metrics = rated at *
  unfold setCountedRate
  dsimp only
  rw [Library.Dict.set_eq_self hsuccess, Library.Dict.set_eq_self havailability,
    Library.Dict.setdefault_of_lookup _ hfailure, Library.Dict.setdefault_of_lookup _ htotal]

/-- Storing the rates and the total leaves the counts, but for a total that was not there. -/
theorem recounted_setCountedRate (success total : PyFloat) (h : successKey =
    "negotiation_success_rate" ∨ successKey = "handshake_success_rate") {keys : CountKeys}
    (hkeys : keys = handshakeKeys ∨ keys = negotiationKeys) (metrics : Dict) :
    Recounted total keys metrics (setCountedRate successKey success total metrics) := by
  have hkept : ∀ key, key ∉ rateKeys successKey →
      (setCountedRate successKey success total metrics).get key = metrics.get key :=
    fun key hkey => Dict.get_of_lookup (lookup_setCountedRate hkey metrics)
  have hstored : ∀ key, key = totalKey successKey →
      (setCountedRate successKey success total metrics).get key = metrics.get key ∨
        (setCountedRate successKey success total metrics).get key = totalJson total := by
    intro key hkey
    obtain ⟨-, -, -, htotal⟩ := lookups_setCountedRate success total h metrics
    rw [Dict.get, hkey, htotal, Dict.get]
    cases metrics.lookup (totalKey successKey) with
    | none => exact .inr rfl
    | some old => exact .inl rfl
  rcases h with rfl | rfl
  · rcases hkeys with rfl | rfl
    · exact ⟨hkept _ (by decide), hkept _ (by decide), hkept _ (by decide),
        .inl (hkept _ (by decide))⟩
    · exact ⟨hkept _ (by decide), hkept _ (by decide), hkept _ (by decide), hstored _ rfl⟩
  · rcases hkeys with rfl | rfl
    · exact ⟨hkept _ (by decide), hkept _ (by decide), hkept _ (by decide), hstored _ rfl⟩
    · exact ⟨hkept _ (by decide), hkept _ (by decide), hkept _ (by decide),
        .inl (hkept _ (by decide))⟩

/-- Where nothing is counted, either both success rates are there now or there was nothing to do. -/
theorem deriveRates_cases {metrics derived : Dict} (hkey : successKey ≠ "availability_success_rate")
    (h : deriveRates successKey metrics = .ok derived) :
    (∀ key, key ≠ successKey → key ≠ "availability_success_rate" →
        derived.lookup key = metrics.lookup key) ∧
      (derived = metrics ∨ (∃ rate, derived.lookup successKey = some rate) ∧
        ∃ rate, derived.lookup "availability_success_rate" = some rate) := by
  unfold deriveRates at h
  cases havailability : metrics.lookup "availability_success_rate" with
  | some available =>
      rw [havailability, Option.isSome_some, if_pos rfl] at h
      cases h
      refine ⟨?_, .inr ⟨⟨_, (Library.Dict.lookup_setdefault _ _ _ _).trans (if_pos rfl)⟩,
        available, ?_⟩⟩
      · intro key hne _
        rw [Library.Dict.lookup_setdefault, if_neg hne]
      · rw [Library.Dict.lookup_setdefault, if_neg hkey.symm, havailability]
  | none =>
      rw [havailability, Option.isSome_none, if_neg (by decide), bind_eq_ok] at h
      obtain ⟨failureRate, -, h⟩ := h
      cases failureRate with
      | some failureRate =>
          cases h
          refine ⟨?_, .inr ⟨⟨_, (Library.Dict.lookup_setdefault _ _ _ _).trans (if_pos rfl)⟩,
            .float ((clampRate (one.sub failureRate)).round 4), ?_⟩⟩
          · intro key hne hne'
            rw [Library.Dict.lookup_setdefault, if_neg hne, Library.Dict.lookup_set, if_neg hne']
          · rw [Library.Dict.lookup_setdefault, if_neg hkey.symm, Library.Dict.lookup_set, if_pos rfl]
      | none =>
          rw [bind_eq_ok] at h
          obtain ⟨direct, hdirect, h⟩ := h
          cases direct with
          | none =>
              cases h
              exact ⟨fun _ _ _ => rfl, .inl rfl⟩
          | some direct =>
              cases h
              -- a number under the key of the protocol, which stays
              have hpresent : metrics.get successKey ≠ .null := by
                intro hnull
                rw [hnull] at hdirect
                cases hdirect
              refine ⟨?_, .inr ⟨⟨metrics.get successKey, ?_⟩,
                .float ((clampRate direct).round 4), ?_⟩⟩
              · intro key _ hne'
                rw [Library.Dict.lookup_set, if_neg hne']
              · rw [Library.Dict.lookup_set, if_neg hkey]
                exact Dict.lookup_of_get rfl hpresent
              · rw [Library.Dict.lookup_set, if_pos rfl]

theorem deriveRates_of_both {metrics : Dict} {rate rate' : Json}
    (h : metrics.lookup successKey = some rate)
    (h' : metrics.lookup "availability_success_rate" = some rate') :
    deriveRates successKey metrics = .ok metrics := by
  rw [deriveRates, h', Option.isSome_some, if_pos rfl, Library.Dict.setdefault_of_lookup _ h]
  rfl

def countKeys : List String :=
  [handshakeKeys, negotiationKeys].flatMap fun keys =>
    [keys.successful, keys.failed, keys.total, keys.attempted]

theorem countedRate_congr {metrics metrics' : Dict}
    (h : ∀ key ∈ countKeys, metrics'.get key = metrics.get key) :
    countedRate metrics' = countedRate metrics := by
  have hread : ∀ keys, keys = handshakeKeys ∨ keys = negotiationKeys →
      readCounts metrics' keys = readCounts metrics keys := by
    intro keys hkeys
    have hmem : ∀ key ∈ [keys.successful, keys.failed, keys.total, keys.attempted],
        metrics'.get key = metrics.get key := by
      intro key hkey
      apply h
      rcases hkeys with rfl | rfl
      · exact List.mem_append_left _ hkey
      · exact List.mem_append_right _ (List.mem_append_left _ hkey)
    simp only [List.forall_mem_cons] at hmem
    simp only [readCounts, numberOr, hmem]
  rw [countedRate, countedRate, hread _ (.inl rfl), hread _ (.inr rfl)]

end

variable [PyText] (floatRepr : PyFloat → List Char)

/-! ## 4. Texts -/

theorem text_str (s : List Char) : text floatRepr (.str (String.ofList s)) = s :=
  String.toList_ofList

omit [PyText] in
theorem truthy_str {s : List Char} (h : s ≠ []) : (Json.str (String.ofList s)).truthy = true := by
  show (String.ofList s != "") = true
  rw [bne_iff_ne, ← String.ofList_nil]
  intro heq
  exact h (String.ofList_injective heq)

omit [PyText] in
theorem pyOr_str {s : List Char} (h : s ≠ []) (other : Json) :
    pyOr (.str (String.ofList s)) other = .str (String.ofList s) := by
  rw [pyOr, if_pos (truthy_str h)]

/-- The text under the key is stripped and not empty, or there is none. -/
def TextClean (key : String) (metrics : Dict) : Prop :=
  metrics.get key = .null ∨
    ∃ s, metrics.get key = .str (String.ofList s) ∧ strip s = s ∧ s ≠ []

theorem TextClean.of_lookup {key : String} {metrics metrics' : Dict}
    (h : TextClean key metrics) (hlookup : metrics'.lookup key = metrics.lookup key) :
    TextClean key metrics' := by
  unfold TextClean
  rw [Dict.get_of_lookup hlookup]
  exact h

theorem TextClean.ne_float {key : String} {metrics : Dict} (h : TextClean key metrics)
    (x : PyFloat) : metrics.get key ≠ .float x := by
  rcases h with hnull | ⟨s, hs, -⟩
  · rw [hnull]
    simp
  · rw [hs]
    simp

theorem normalizeTextMetric_of_clean {key : String} {metrics : Dict} (h : TextClean key metrics) :
    normalizeTextMetric floatRepr key metrics = metrics := by
  unfold normalizeTextMetric
  rcases h with hnull | ⟨s, hs, hstrip, hne⟩
  · rw [hnull]
  · have hlookup := Dict.lookup_of_get hs (by simp)
    rw [hs]
    dsimp only
    rw [text_str, hstrip, if_pos hne, Library.Dict.set_eq_self hlookup]

theorem lookup_normalizeTextMetric {key other : String} (hne : other ≠ key) (metrics : Dict) :
    (normalizeTextMetric floatRepr key metrics).lookup other = metrics.lookup other := by
  unfold normalizeTextMetric
  split
  · rfl
  · dsimp only
    split
    · rw [Library.Dict.lookup_set, if_neg hne]
    · rw [Library.Dict.lookup_pop, if_neg hne]

theorem textClean_normalizeTextMetric (key : String) (metrics : Dict) :
    TextClean key (normalizeTextMetric floatRepr key metrics) := by
  unfold normalizeTextMetric
  split
  · rename_i hnull
    exact .inl hnull
  · dsimp only
    split
    · rename_i hne
      right
      refine ⟨_, ?_, strip_strip _, hne⟩
      rw [Dict.get_set, if_pos rfl]
    · left
      rw [Dict.get, Library.Dict.lookup_pop, if_pos rfl]
      rfl

/-! ## 5. Client checks -/

theorem normalizeResultStatus_text (status default : ResultStatus) :
    normalizeResultStatus floatRepr (.str status.text) default = status := by
  have hascii : ∀ status : ResultStatus, status.text.toList ≠ [] ∧
      (∀ c ∈ status.text.toList, isAscii c = true ∧ isAsciiSpace c = false) ∧
        statusNames.lookup (status.text.toList.map Char.toUpper) = some status := by
    intro status
    cases status <;> decide +kernel
  obtain ⟨hne, hchars, hname⟩ := hascii status
  have hstrip : strip status.text.toList = status.text.toList := by
    apply strip_eq_self
    intro c hc
    rw [PyText.isSpace_ascii c (hchars c hc).1, (hchars c hc).2]
  have htext : Json.str status.text = .str (String.ofList status.text.toList) := by
    rw [String.ofList_toList]
  rw [normalizeResultStatus, htext, pyOr_str hne, text_str, hstrip,
    upper_ascii fun c hc => (hchars c hc).1, hname]
  rfl

/-- What a normalised check carries. -/
structure CheckClean (fields : Dict) : Prop where
  profile : ∃ s, fields.get "profile" = .str (String.ofList s) ∧ strip s = s ∧ s ≠ []
  status : ∃ status : ResultStatus, fields.get "status" = .str status.text
  responseCode : TextClean "response_code" fields
  failureReason : TextClean "failure_reason" fields

theorem checkClean_of_normalizeCheck {raw : Json} {fields : Dict}
    (h : normalizeCheck floatRepr raw = some fields) : CheckClean fields := by
  cases raw with
  | dict entries =>
      simp only [normalizeCheck] at h
      split at h
      · cases h
      · rename_i hne
        cases h
        -- the two texts are normalised after the profile and the status are set
        have hkept : ∀ key, key ≠ "failure_reason" → key ≠ "response_code" → ∀ check : Dict,
            (normalizeTextMetric floatRepr "failure_reason"
              (normalizeTextMetric floatRepr "response_code" check)).lookup key =
                check.lookup key := by
          intro key hreason hcode check
          rw [lookup_normalizeTextMetric floatRepr hreason,
            lookup_normalizeTextMetric floatRepr hcode]
        refine ⟨⟨checkProfile floatRepr entries, ?_, strip_strip _, hne⟩,
          ⟨checkStatus floatRepr entries, ?_⟩, ?_, ?_⟩
        · rw [Dict.get_of_lookup (hkept "profile" (by decide) (by decide) _), Dict.get_set,
            if_neg (by decide), Dict.get_set, if_pos rfl]
        · rw [Dict.get_of_lookup (hkept "status" (by decide) (by decide) _), Dict.get_set,
            if_pos rfl]
        · exact (textClean_normalizeTextMetric floatRepr "response_code" _).of_lookup
            (lookup_normalizeTextMetric floatRepr (by decide) _)
        · exact textClean_normalizeTextMetric floatRepr "failure_reason" _
  | null | bool | int | float | str | list => cases h

theorem normalizeCheck_of_clean {fields : Dict} (h : CheckClean fields) :
    normalizeCheck floatRepr (.dict fields) = some fields := by
  obtain ⟨s, hprofile, hstrip, hne⟩ := h.profile
  obtain ⟨status, hstatus⟩ := h.status
  have hsame : checkProfile floatRepr fields = s := by
    rw [checkProfile, hprofile, pyOr_str hne, text_str, hstrip]
  have htruthy : (Json.str status.text).truthy = true := by
    cases status <;> decide +kernel
  have hcheck : checkStatus floatRepr fields = status := by
    rw [checkStatus, hstatus, if_neg (by simp)]
    rw [pyOr, if_pos htruthy, normalizeResultStatus_text]
  simp only [normalizeCheck, hsame, if_neg hne, hcheck]
  rw [Library.Dict.set_eq_self (Dict.lookup_of_get hprofile (by simp)),
    Library.Dict.set_eq_self (Dict.lookup_of_get hstatus (by simp)),
    normalizeTextMetric_of_clean floatRepr h.responseCode,
    normalizeTextMetric_of_clean floatRepr h.failureReason]

/-- Normalised checks are a list of checks that stay as they are. -/
theorem normalizeClientCompatibility_normalized (value : Json) :
    normalizeClientCompatibility floatRepr
      (.list ((normalizeClientCompatibility floatRepr value).map .dict)) =
        normalizeClientCompatibility floatRepr value := by
  have hclean : ∀ fields ∈ normalizeClientCompatibility floatRepr value, CheckClean fields := by
    intro fields hfields
    obtain ⟨raw, -, hraw⟩ := List.mem_filterMap.mp hfields
    exact checkClean_of_normalizeCheck floatRepr hraw
  generalize normalizeClientCompatibility floatRepr value = checks at hclean ⊢
  show (checks.map Json.dict).filterMap (normalizeCheck floatRepr) = checks
  rw [List.filterMap_map]
  induction checks with
  | nil => rfl
  | cons fields checks ih =>
      have hfirst : (normalizeCheck floatRepr ∘ Json.dict) fields = some fields :=
        normalizeCheck_of_clean floatRepr (hclean fields List.mem_cons_self)
      rw [List.filterMap_cons_some hfirst,
        ih fun fields hfields => hclean fields (List.mem_cons_of_mem _ hfields)]

/-! ## 6. Clean maps -/

/-- The checks under the key are normalised and not empty, or the key is not there. -/
def ChecksClean (metrics : Dict) : Prop :=
  metrics.lookup "client_compatibility" = none ∨
    ∃ checks : List Dict, checks ≠ [] ∧
      metrics.get "client_compatibility" = .list (checks.map .dict) ∧
        normalizeClientCompatibility floatRepr (.list (checks.map .dict)) = checks

/-- Nothing in the map is left to normalise but the rates. -/
structure TextsClean (metrics : Dict) : Prop where
  protocol : (metrics.get "protocol").truthy = false ∨
    ∃ s, metrics.get "protocol" = .str (String.ofList s) ∧ upper s = s
  responseCode : TextClean "response_code" metrics
  failureReason : TextClean "failure_reason" metrics
  checks : ChecksClean floatRepr metrics

def textKeys : List String := ["protocol", "response_code", "failure_reason", "client_compatibility"]

variable {floatRepr} in
theorem TextsClean.of_lookup {metrics metrics' : Dict} (h : TextsClean floatRepr metrics)
    (hlookup : ∀ key ∈ textKeys, metrics'.lookup key = metrics.lookup key) :
    TextsClean floatRepr metrics' := by
  have hprotocol := Dict.get_of_lookup (hlookup "protocol" (by decide))
  have hchecks := hlookup "client_compatibility" (by decide)
  refine ⟨?_, h.responseCode.of_lookup (hlookup _ (by decide)),
    h.failureReason.of_lookup (hlookup _ (by decide)), ?_⟩
  · rw [hprotocol]
    exact h.protocol
  · unfold ChecksClean
    rw [hchecks, Dict.get_of_lookup hchecks]
    exact h.checks

omit [PyText] in
theorem lookup_setClientChecks {key : String} (hne : key ≠ "client_compatibility")
    (checks : List Dict) (metrics : Dict) :
    (setClientChecks checks metrics).lookup key = metrics.lookup key := by
  unfold setClientChecks
  by_cases h : checks = []
  · rw [if_pos h, Library.Dict.lookup_pop, if_neg hne]
  · rw [if_neg h, Library.Dict.lookup_set, if_neg hne]

theorem lookup_upperProtocol {key : String} (hne : key ≠ "protocol") (metrics : Dict) :
    (upperProtocol floatRepr metrics).lookup key = metrics.lookup key := by
  unfold upperProtocol
  by_cases h : (metrics.get "protocol").truthy = true
  · rw [if_pos h, Library.Dict.lookup_set, if_neg hne]
  · rw [if_neg h]

/-- Only the texts and the client checks are normalised. -/
theorem lookup_normalizeTexts {key : String} (h : key ∉ textKeys) (metrics : Dict) :
    (normalizeTexts floatRepr metrics).lookup key = metrics.lookup key := by
  simp only [textKeys, List.mem_cons, List.not_mem_nil, or_false, not_or] at h
  obtain ⟨hprotocol, hcode, hreason, hchecks⟩ := h
  unfold normalizeTexts
  dsimp only
  rw [lookup_setClientChecks hchecks, lookup_normalizeTextMetric floatRepr hreason,
    lookup_normalizeTextMetric floatRepr hcode, lookup_upperProtocol floatRepr hprotocol]

variable {floatRepr} in
theorem normalizeTexts_of_clean {metrics : Dict} (h : TextsClean floatRepr metrics) :
    normalizeTexts floatRepr metrics = metrics := by
  have hprotocol : upperProtocol floatRepr metrics = metrics := by
    unfold upperProtocol
    rcases h.protocol with hfalse | ⟨s, hs, hupper⟩
    · rw [hfalse, if_neg (by decide)]
    · rw [hs, text_str, hupper, Library.Dict.set_eq_self (Dict.lookup_of_get hs (by simp)), ite_self]
  unfold normalizeTexts
  dsimp only
  rw [hprotocol, normalizeTextMetric_of_clean floatRepr h.responseCode,
    normalizeTextMetric_of_clean floatRepr h.failureReason, setClientChecks]
  rcases h.checks with hnone | ⟨checks, hne, hget, hchecks⟩
  · have hnull : metrics.get "client_compatibility" = .null := by
      rw [Dict.get, hnone]
      rfl
    have hempty : normalizeClientCompatibility floatRepr .null = [] := rfl
    rw [hnull, if_pos hempty, Library.Dict.pop_eq_self hnone]
  · rw [hget, hchecks, if_neg hne, Library.Dict.set_eq_self (Dict.lookup_of_get hget (by simp))]

theorem protocol_upperProtocol [PyCapitals] (metrics : Dict) :
    ((upperProtocol floatRepr metrics).get "protocol").truthy = false ∨
      ∃ s, (upperProtocol floatRepr metrics).get "protocol" = .str (String.ofList s) ∧
        upper s = s := by
  unfold upperProtocol
  cases h : (metrics.get "protocol").truthy with
  | false =>
      rw [if_neg (by decide)]
      exact .inl h
  | true =>
      rw [if_pos rfl, Dict.get_set, if_pos rfl]
      exact .inr ⟨_, rfl, upper_upper _⟩

theorem checksClean_setClientChecks (value : Json) (metrics : Dict) :
    ChecksClean floatRepr
      (setClientChecks (normalizeClientCompatibility floatRepr value) metrics) := by
  unfold setClientChecks
  by_cases h : normalizeClientCompatibility floatRepr value = []
  · left
    rw [if_pos h, Library.Dict.lookup_pop, if_pos rfl]
  · right
    refine ⟨_, h, ?_, normalizeClientCompatibility_normalized floatRepr value⟩
    rw [if_neg h, Dict.get_set, if_pos rfl]

theorem textsClean_normalizeTexts [PyCapitals] (metrics : Dict) :
    TextsClean floatRepr (normalizeTexts floatRepr metrics) := by
  unfold normalizeTexts
  dsimp only
  refine ⟨?_, ?_, ?_, checksClean_setClientChecks floatRepr _ _⟩
  · have hkept := @lookup_setClientChecks "protocol" (by decide)
    rw [Dict.get_of_lookup (hkept _ _), Dict.get_of_lookup
      ((lookup_normalizeTextMetric floatRepr (by decide) _).trans
        (lookup_normalizeTextMetric floatRepr (by decide) _))]
    exact protocol_upperProtocol floatRepr metrics
  · apply (textClean_normalizeTextMetric floatRepr "response_code" _).of_lookup
    rw [lookup_setClientChecks (by decide), lookup_normalizeTextMetric floatRepr (by decide)]
  · apply (textClean_normalizeTextMetric floatRepr "failure_reason" _).of_lookup
    rw [lookup_setClientChecks (by decide)]

/-! ## 7. The whole -/

theorem successRateKey_cases (metrics : Dict) :
    successRateKey floatRepr metrics = "negotiation_success_rate" ∨
      successRateKey floatRepr metrics = "handshake_success_rate" := by
  unfold successRateKey
  split
  · exact .inl rfl
  · exact .inr rfl

theorem successRateKey_congr {metrics metrics' : Dict}
    (h : metrics'.get "protocol" = metrics.get "protocol") :
    successRateKey floatRepr metrics' = successRateKey floatRepr metrics := by
  unfold successRateKey
  rw [h]

theorem get_normalizeTexts_protocol (metrics : Dict) :
    (normalizeTexts floatRepr metrics).get "protocol" =
      (upperProtocol floatRepr metrics).get "protocol" := by
  apply Dict.get_of_lookup
  unfold normalizeTexts
  dsimp only
  rw [lookup_setClientChecks (by decide), lookup_normalizeTextMetric floatRepr (by decide),
    lookup_normalizeTextMetric floatRepr (by decide)]

theorem get_upperProtocol_congr {metrics metrics' : Dict}
    (h : metrics'.get "protocol" = metrics.get "protocol") :
    (upperProtocol floatRepr metrics').get "protocol" =
      (upperProtocol floatRepr metrics).get "protocol" := by
  unfold upperProtocol
  rw [h]
  split
  · rw [Dict.get_set, Dict.get_set, if_pos rfl, if_pos rfl]
  · exact h

/-- The texts that are normalised are no floats, and the protocol keeps a value that is false. -/
theorem doubles_normalizeTexts [PyCapitals] {metrics : Dict} (h : Doubles metrics) :
    Doubles (normalizeTexts floatRepr metrics) := by
  have hclean := textsClean_normalizeTexts floatRepr metrics
  intro key x hget
  by_cases hmem : key ∈ textKeys
  · simp only [textKeys, List.mem_cons, List.not_mem_nil, or_false] at hmem
    rcases hmem with rfl | rfl | rfl | rfl
    · rw [get_normalizeTexts_protocol, upperProtocol] at hget
      split at hget
      · rw [Dict.get_set, if_pos rfl] at hget
        cases hget
      · exact h _ x hget
    · exact absurd hget (hclean.responseCode.ne_float x)
    · exact absurd hget (hclean.failureReason.ne_float x)
    · rcases hclean.checks with hnone | ⟨checks, -, hchecks, -⟩
      · rw [Dict.get, hnone] at hget
        cases hget
      · rw [hchecks] at hget
        cases hget
  · rw [Dict.get_of_lookup (lookup_normalizeTexts floatRepr hmem metrics)] at hget
    exact h key x hget

theorem lookup_normalizeRates {metrics normalized : Dict} {key : String}
    (hkey : key ∉ rateKeys (successRateKey floatRepr metrics))
    (h : normalizeRates floatRepr metrics = .ok normalized) :
    normalized.lookup key = metrics.lookup key := by
  rw [normalizeRates, bind_eq_ok] at h
  obtain ⟨counted, -, h⟩ := h
  cases counted with
  | some rate =>
      cases h
      exact lookup_setCountedRate hkey metrics
  | none =>
      have hne : successRateKey floatRepr metrics ≠ "availability_success_rate" := by
        rcases successRateKey_cases floatRepr metrics with heq | heq <;> rw [heq] <;> decide
      rw [rateKeys, List.mem_cons, List.mem_cons, not_or, not_or] at hkey
      exact (deriveRates_cases hne h).1 key hkey.1 hkey.2.1

/-- A map whose texts are clean and whose rates are derived stays as it is. -/
theorem normalizeRates_again {metrics normalized : Dict} (hdoubles : Doubles metrics)
    (h : normalizeRates floatRepr metrics = .ok normalized) :
    (∀ key ∈ textKeys, normalized.lookup key = metrics.lookup key) ∧
      normalizeRates floatRepr normalized = .ok normalized := by
  have hkey := successRateKey_cases floatRepr metrics
  rw [normalizeRates, bind_eq_ok] at h
  obtain ⟨counted, hcounted, h⟩ := h
  cases counted with
  | some rate =>
      obtain ⟨success, total⟩ := rate
      cases h
      have hkept : ∀ key ∈ textKeys, (setCountedRate (successRateKey floatRepr metrics) success
          total metrics).lookup key = metrics.lookup key := by
        intro key hmem
        apply lookup_setCountedRate
        have hdisjoint : ∀ successKey, successKey = "negotiation_success_rate" ∨
            successKey = "handshake_success_rate" → ∀ key ∈ textKeys, key ∉ rateKeys successKey := by
          rintro successKey (rfl | rfl) <;> decide
        exact hdisjoint _ hkey key hmem
      -- the rates written back are those of the same counts
      have hagain := countedRate_again hdoubles hcounted
        (recounted_setCountedRate success total hkey (.inl rfl) metrics)
        (recounted_setCountedRate success total hkey (.inr rfl) metrics)
      refine ⟨hkept, ?_⟩
      rw [normalizeRates,
        successRateKey_congr floatRepr (Dict.get_of_lookup (hkept _ (by decide))), hagain]
      exact congrArg Except.ok (setCountedRate_again hkey metrics)
  | none =>
      have hne : successRateKey floatRepr metrics ≠ "availability_success_rate" := by
        rcases hkey with heq | heq <;> rw [heq] <;> decide
      obtain ⟨hkept, hcase⟩ := deriveRates_cases hne h
      have hother : ∀ key ∈ textKeys ++ countKeys,
          normalized.lookup key = metrics.lookup key := by
        intro key hmem
        have hdisjoint : ∀ successKey, successKey = "negotiation_success_rate" ∨
            successKey = "handshake_success_rate" → ∀ key ∈ textKeys ++ countKeys,
              key ≠ successKey ∧ key ≠ "availability_success_rate" := by
          rintro successKey (rfl | rfl) <;> decide
        have hne' := hdisjoint _ hkey key hmem
        exact hkept key hne'.1 hne'.2
      have htexts : ∀ key ∈ textKeys, normalized.lookup key = metrics.lookup key :=
        fun key hmem => hother key (List.mem_append_left _ hmem)
      have hcounts : countedRate normalized = .ok none := by
        rw [← hcounted]
        apply countedRate_congr
        intro key hmem
        exact Dict.get_of_lookup (hother key (List.mem_append_right _ hmem))
      refine ⟨htexts, ?_⟩
      rw [normalizeRates,
        successRateKey_congr floatRepr (Dict.get_of_lookup (htexts _ (by decide))), hcounts]
      show deriveRates _ normalized = _
      -- nothing was derived, or both rates are there now and neither is derived again
      rcases hcase with rfl | ⟨⟨rate, hrate⟩, rate', hrate'⟩
      · exact h
      · exact deriveRates_of_both hrate hrate'

/-- **Normalising again changes nothing.**  The floats of the map are doubles, as those of any Python
object are. -/
theorem normalize_idempotent [PyCapitals] {metrics : Option Dict} {normalized : Dict}
    (hdoubles : Doubles (metrics.getD []))
    (h : normalizeAvailabilityMetrics floatRepr metrics = .ok normalized) :
    normalizeAvailabilityMetrics floatRepr (some normalized) = .ok normalized := by
  unfold normalizeAvailabilityMetrics at h ⊢
  have hclean := textsClean_normalizeTexts floatRepr (metrics.getD [])
  obtain ⟨htexts, hagain⟩ :=
    normalizeRates_again floatRepr (doubles_normalizeTexts floatRepr hdoubles) h
  rw [Option.getD_some, normalizeTexts_of_clean (hclean.of_lookup htexts)]
  exact hagain

omit [PyText] in
/-- Ninety-seven handshakes out of a hundred, as a runner reports them. -/
theorem handshakes_idempotent : letI := asciiText
    let metrics : Dict :=
      [("protocol", .str "tls"), ("successful_handshakes", .int 97), ("failed_handshakes", .int 3),
        ("response_code", .int 200)]
    let normalized : Dict :=
      [("protocol", .str "TLS"), ("successful_handshakes", .int 97), ("failed_handshakes", .int 3),
        ("response_code", .str "200"), ("handshake_success_rate", .float (.ofRat (97 / 100))),
        ("availability_success_rate", .float (.ofRat (97 / 100))),
        ("failure_rate", .float (.ofRat (3 / 100))), ("total_handshakes", .int 100)]
    normalizeAvailabilityMetrics (fun _ => []) (some metrics) = .ok normalized ∧
      normalizeAvailabilityMetrics (fun _ => []) (some normalized) = .ok normalized := by
  let _ := asciiText
  have _ := asciiCapitals
  intro metrics normalized
  have hdoubles : Doubles ((some metrics).getD []) := by
    intro key x hget
    have hmem := Dict.mem_of_get hget (by simp)
    simp [metrics] at hmem
  have hfirst : normalizeAvailabilityMetrics (fun _ => []) (some metrics) = .ok normalized := by
    decide +kernel
  exact ⟨hfirst, @normalize_idempotent _ _ _ (some metrics) _ hdoubles hfirst⟩

end Engine

end CryptoScanner.Performance
