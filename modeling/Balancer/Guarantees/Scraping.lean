import Balancer.Core.Exposition
import Balancer.Http.TextFormat
import Balancer.Guarantees.LatencyHistogram

/-! What a reader makes of the page of `export_prometheus`. -/

namespace Balancer.Guarantees.Scraping
open Foundation Http Core

section Numbers

theorem isDigit_digitOf (number : Nat) : isDigit (digitOf number) = true :=
  isDigit_digit (Nat.mod_lt number (by decide))

theorem digitOf_toNat (number : Nat) : (digitOf number).toNat = 48 + number % 10 :=
  digit_toNat (Nat.mod_lt number (by decide))

/-- A number with a point is read as it was meant. -/
theorem readNumber_pointed (thousandths : Nat) : readNumber (pointed thousandths) = some ((thousandths : ℚ) / 1000) := by
  let fraction := [digitOf (thousandths / 100), digitOf (thousandths / 10), digitOf thousandths]
  have digits : ∀ byte ∈ fraction, isDigit byte = true := by
    intro byte member
    simp only [fraction, List.mem_cons, List.not_mem_nil, or_false] at member
    rcases member with rfl | rfl | rfl <;> exact isDigit_digitOf _
  have value : decimalValue fraction = thousandths % 1000 := by
    simp only [fraction, decimalValue, List.foldl_cons, List.foldl_nil, digitOf_toNat]
    omega
  have parts : (thousandths : ℚ) = 1000 * (thousandths / 1000 : Nat) + (thousandths % 1000 : Nat) := by
    exact_mod_cast (Nat.div_add_mod thousandths 1000).symm
  have read := @readNumber_point (thousandths / 1000) fraction (List.cons_ne_nil _ _) digits
  rw [value] at read
  refine read.trans (congrArg some ?_)
  rw [parts]
  have three : fraction.length = 3 := rfl
  rw [three]
  ring

theorem pointed_plain (thousandths : Nat) : 10 ∉ pointed thousandths ∧ Plain (pointed thousandths) := by
  have each : ∀ byte ∈ pointed thousandths, isDigit byte = true ∨ byte = 46 := by
    intro byte member
    rw [pointed, List.mem_append, List.mem_cons] at member
    rcases member with digit | point | digit
    · exact Or.inl (decimal_digits _ byte digit)
    · exact Or.inr point
    · simp only [List.mem_cons, List.not_mem_nil, or_false] at digit
      rcases digit with rfl | rfl | rfl <;> exact Or.inl (isDigit_digitOf _)
  have other (special : UInt8) (neither : isDigit special = false ∧ special ≠ 46) : special ∉ pointed thousandths := by
    intro member
    rcases each special member with digit | point
    · rw [neither.1] at digit
      cases digit
    · exact neither.2 point
  refine ⟨other 10 (by decide), fun byte member => ⟨?_, ?_⟩⟩
  · rintro rfl
    exact other 34 (by decide) member
  · rintro rfl
    exact other 92 (by decide) member

/-- To three decimals, halves to even. -/
def nearestThousandth (value : ℚ) : ℚ := roundEven (1000 * value) / 1000

theorem threeDecimals_nonneg {value : ℚ} (nonneg : 0 ≤ value) :
    threeDecimals value = pointed (roundEven (1000 * value)).toNat := by
  unfold threeDecimals
  rw [if_neg (not_lt.mpr nonneg), abs_of_nonneg nonneg]
  rfl

/-- What is shown of a number is read as the nearest thousandth. -/
theorem readNumber_threeDecimals {value : ℚ} (nonneg : 0 ≤ value) :
    readNumber (threeDecimals value) = some (nearestThousandth value) := by
  have whole : 0 ≤ roundEven (1000 * value) := roundEven_nonneg (by positivity)
  have cast : (((roundEven (1000 * value)).toNat : Nat) : ℚ) = roundEven (1000 * value) := by
    exact_mod_cast Int.toNat_of_nonneg whole
  rw [threeDecimals_nonneg nonneg, readNumber_pointed, cast]
  rfl

/-- A number of thousandths is shown exactly. -/
theorem threeDecimals_thousandths (thousandths : Nat) : threeDecimals ((thousandths : ℚ) / 1000) = pointed thousandths := by
  have whole : 1000 * ((thousandths : ℚ) / 1000) = ((thousandths : ℤ) : ℚ) := by
    push_cast
    ring
  rw [threeDecimals_nonneg (by positivity), whole, roundEven_intCast, Int.toNat_natCast]

end Numbers

section Samples

def seriesSample (metrics : Metrics) (series : Series) : Sample := ⟨series.name, [], series.value metrics⟩

def bucketSample (bound : Bytes) (count : UInt64) : Sample :=
  ⟨ascii "lb_request_duration_ms_bucket", [(ascii "le", bound)], count.toNat⟩

def latencySamples (latency : LatencyExport) : List Sample :=
  latency.buckets.map (fun bucket => bucketSample (threeDecimals bucket.1) bucket.2) ++
    [bucketSample (ascii "+Inf") latency.infinity, ⟨ascii "lb_request_duration_ms_sum", [], nearestThousandth latency.sum⟩,
      ⟨ascii "lb_request_duration_ms_count", [], latency.count.toNat⟩]

def backendSample (name : Bytes) (entry : Bytes × Nat) : Sample := ⟨name, [(ascii "backend", entry.1)], entry.2⟩

/-- What the page is to say, in its order: every count as it is, and the sum of the latencies to the nearest thousandth. -/
def pageSamples (metrics : Metrics) (routed : Listing metrics.backendRouted) (failed : Listing metrics.backendFailures) :
    List Sample :=
  allSeries.map (seriesSample metrics) ++
    latencySamples (LatencyHistogram.recorded metrics.latenciesMs).exportPrometheus ++
    routed.entries.map (backendSample (ascii "lb_backend_requests_total")) ++
    failed.entries.map (backendSample (ascii "lb_backend_errors_total"))

/-- A name that needs no escaping. -/
def Quotable (name : Bytes) : Prop := Plain name ∧ 10 ∉ name

end Samples

section Parts

theorem decimal_clear (number : Nat) {special : UInt8} (other : isDigit special = false) : special ∉ decimal number := by
  intro member
  have digit := decimal_digits number special member
  rw [other] at digit
  cases digit

theorem blank_prints : Prints [10] [] True := @prints_comment [] List.not_mem_nil rfl

theorem comments_print {name help kind : Bytes} (named : 10 ∉ name) (helps : 10 ∉ help) (kinds : 10 ∉ kind) :
    Prints (metricComments name help kind) [] True := by
  have first : 10 ∉ ascii "# HELP " ++ name ++ ascii " " ++ help := by
    simp only [List.mem_append, named, helps, or_false]
    decide
  have second : 10 ∉ ascii "# TYPE " ++ name ++ ascii " " ++ kind := by
    simp only [List.mem_append, named, kinds, or_false]
    decide
  have both := (prints_comment first rfl).append (prints_comment second rfl)
  rw [List.append_nil, and_self] at both
  have shape : metricComments name help kind = ascii "# HELP " ++ name ++ ascii " " ++ help ++ [10] ++
      (ascii "# TYPE " ++ name ++ ascii " " ++ kind ++ [10]) := by
    have broken : ascii "\n" = [10] := rfl
    simp only [metricComments, broken, List.append_assoc]
  rw [shape]
  exact both

theorem labelled_prints {name label value number : Bytes} {amount : ℚ} (named : IsName name) (tagged : IsName label)
    (read : readNumber number = some amount) (unbroken : 10 ∉ number) (unquoted : 34 ∉ number) :
    Prints (labelled name label value number) [⟨name, [(label, value)], amount⟩] (Quotable value) := by
  have shape : labelled name label value number = labelLine name label (value ++ 34 :: 125 :: 32 :: (number ++ [10])) := by
    have opens : ascii "\x7b" = [123] := rfl
    have quote : ascii "=\"" = [61, 34] := rfl
    have closes : ascii "\"\x7d " = [34, 125, 32] := rfl
    have broken : ascii "\n" = [10] := rfl
    simp [labelled, labelLine, opens, quote, closes, broken]
  rw [shape]
  exact prints_labelled named tagged read unbroken unquoted

/-- Nothing that is printed for a series breaks a line or is no name. -/
def wellFormed (series : Series) : Bool :=
  series.name ≠ [] && series.name.all isMetricByte && !series.help.contains 10 && !series.kind.contains 10

theorem allSeries_wellFormed : allSeries.all wellFormed = true := by decide +kernel

theorem series_prints (metrics : Metrics) {series : Series} (fine : wellFormed series = true) :
    Prints (series.text metrics) [seriesSample metrics series] True := by
  simp only [wellFormed, Bool.and_eq_true, Bool.not_eq_true', decide_eq_true_eq, List.all_eq_true,
    List.contains_eq_mem, decide_eq_false_iff_not] at fine
  obtain ⟨⟨⟨nonempty, letters⟩, helps⟩, kinds⟩ := fine
  have named : IsName series.name := ⟨nonempty, letters⟩
  have value := prints_bare named (readNumber_decimal (series.value metrics))
    (decimal_clear (series.value metrics) (by decide))
  have all := ((comments_print (named.other (by decide)) helps kinds).append value).append blank_prints
  rw [List.nil_append, List.append_nil, and_self, and_self] at all
  have shape : series.text metrics = metricComments series.name series.help series.kind ++
      (series.name ++ 32 :: (decimal (series.value metrics) ++ [10])) ++ [10] := by
    have space : ascii " " = [32] := rfl
    have broken : ascii "\n\n" = [10, 10] := rfl
    simp [Series.text, space, broken]
  rw [shape]
  exact all

end Parts

section Latencies

/-- The bounds of the buckets are thousandths. -/
theorem latencyBuckets_thousandths {bound : ℚ} (listed : bound ∈ latencyBuckets) :
    ∃ thousandths : Nat, bound = (thousandths : ℚ) / 1000 := by
  simp only [latencyBuckets, List.mem_cons, List.not_mem_nil, or_false] at listed
  rcases listed with rfl | rfl | rfl | rfl | rfl | rfl | rfl | rfl | rfl | rfl
  · exact ⟨1000, by norm_num⟩
  · exact ⟨5000, by norm_num⟩
  · exact ⟨10000, by norm_num⟩
  · exact ⟨25000, by norm_num⟩
  · exact ⟨50000, by norm_num⟩
  · exact ⟨100000, by norm_num⟩
  · exact ⟨250000, by norm_num⟩
  · exact ⟨500000, by norm_num⟩
  · exact ⟨1000000, by norm_num⟩
  · exact ⟨5000000, by norm_num⟩

theorem roundedSum_nonneg {latencies : List ℚ} (nonneg : ∀ latency ∈ latencies, 0 ≤ latency) : 0 ≤ roundedSum latencies := by
  induction latencies using List.reverseRecOn with
  | nil => exact le_rfl
  | append_singleton latencies latency ih =>
    have last : roundedSum (latencies ++ [latency]) = nearestDouble (roundedSum latencies + latency) := List.foldl_concat ..
    rw [last]
    exact nearestDouble_nonneg (add_nonneg (ih fun other member => nonneg other (List.mem_append_left _ member))
      (nonneg latency List.mem_concat_self))

theorem latenciesMs_nonneg (metrics : Metrics) : ∀ latency ∈ metrics.latenciesMs, 0 ≤ latency := by
  unfold Metrics.latenciesMs
  rw [List.forall_mem_map]
  exact fun micros _ => nearestDouble_nonneg (by positivity)

theorem bucketName : IsName (ascii "lb_request_duration_ms_bucket") := ⟨by decide, by decide +kernel⟩

theorem boundLabel : IsName (ascii "le") := ⟨by decide, by decide +kernel⟩

theorem bucket_prints {bound : Bytes} (fine : Quotable bound) (count : UInt64) :
    Prints (labelled (ascii "lb_request_duration_ms_bucket") (ascii "le") bound (decimal count.toNat))
      [bucketSample bound count] True := by
  have prints := @labelled_prints _ _ bound _ _ bucketName boundLabel (readNumber_decimal count.toNat)
    (decimal_clear _ (by decide)) (decimal_clear _ (by decide))
  rwa [eq_true fine] at prints

theorem latency_prints (metrics : Metrics) :
    Prints (LatencyHistogram.recorded metrics.latenciesMs).exportPrometheus.text
      (latencySamples (LatencyHistogram.recorded metrics.latenciesMs).exportPrometheus) True := by
  generalize shown : (LatencyHistogram.recorded metrics.latenciesMs).exportPrometheus = latency
  have bounds : latency.buckets.map Prod.fst = latencyBuckets := shown ▸ exported_bounds _
  have sum : 0 ≤ latency.sum := by
    rw [← shown]
    unfold LatencyHistogram.exportPrometheus
    rw [recorded_eq]
    exact roundedSum_nonneg (latenciesMs_nonneg metrics)
  have buckets := @Prints.flatMap _ (fun bucket : ℚ × UInt64 => labelled (ascii "lb_request_duration_ms_bucket")
    (ascii "le") (threeDecimals bucket.1) (decimal bucket.2.toNat))
    (fun bucket => bucketSample (threeDecimals bucket.1) bucket.2) (fun _ => True) latency.buckets (by
      intro bucket member
      obtain ⟨thousandths, bound⟩ := latencyBuckets_thousandths (bounds ▸ List.mem_map_of_mem member)
      have clear := pointed_plain thousandths
      rw [bound, threeDecimals_thousandths]
      exact bucket_prints ⟨clear.2, clear.1⟩ bucket.2)
  rw [eq_true fun _ _ => trivial] at buckets
  have last := @bucket_prints (ascii "+Inf") ⟨by decide +kernel, by decide +kernel⟩ latency.infinity
  have total : Prints (ascii "lb_request_duration_ms_sum" ++ 32 :: (threeDecimals latency.sum ++ [10]))
      [⟨ascii "lb_request_duration_ms_sum", [], nearestThousandth latency.sum⟩] True := by
    have unbroken : 10 ∉ threeDecimals latency.sum := by
      rw [threeDecimals_nonneg sum]
      exact (pointed_plain _).1
    exact prints_bare ⟨by decide, by decide +kernel⟩ (readNumber_threeDecimals sum) unbroken
  have count : Prints (ascii "lb_request_duration_ms_count" ++ 32 :: (decimal latency.count.toNat ++ [10]))
      [⟨ascii "lb_request_duration_ms_count", [], latency.count.toNat⟩] True :=
    prints_bare ⟨by decide, by decide +kernel⟩ (readNumber_decimal _) (decimal_clear _ (by decide))
  have comments := @comments_print (ascii "lb_request_duration_ms") (ascii "Request latency in milliseconds")
    (ascii "histogram") (by decide +kernel) (by decide +kernel) (by decide +kernel)
  have all := ((((comments.append buckets).append last).append total).append count).append blank_prints
  simp only [and_self] at all
  have shape : latency.text = metricComments (ascii "lb_request_duration_ms") (ascii "Request latency in milliseconds")
      (ascii "histogram") ++ latency.buckets.flatMap (fun bucket => labelled (ascii "lb_request_duration_ms_bucket")
        (ascii "le") (threeDecimals bucket.1) (decimal bucket.2.toNat)) ++
      labelled (ascii "lb_request_duration_ms_bucket") (ascii "le") (ascii "+Inf") (decimal latency.infinity.toNat) ++
      (ascii "lb_request_duration_ms_sum" ++ 32 :: (threeDecimals latency.sum ++ [10])) ++
      (ascii "lb_request_duration_ms_count" ++ 32 :: (decimal latency.count.toNat ++ [10])) ++ [10] := by
    have sums : ascii "lb_request_duration_ms_sum " = ascii "lb_request_duration_ms_sum" ++ [32] := rfl
    have counts : ascii "lb_request_duration_ms_count " = ascii "lb_request_duration_ms_count" ++ [32] := rfl
    have broken : ascii "\n" = [10] := rfl
    have blank : ascii "\n\n" = [10, 10] := rfl
    simp only [LatencyExport.text, sums, counts, broken, blank, List.append_assoc, List.cons_append, List.nil_append]
  have samples : [] ++ latency.buckets.map (fun bucket => bucketSample (threeDecimals bucket.1) bucket.2) ++
      [bucketSample (ascii "+Inf") latency.infinity] ++
      [⟨ascii "lb_request_duration_ms_sum", [], nearestThousandth latency.sum⟩] ++
      [⟨ascii "lb_request_duration_ms_count", [], latency.count.toNat⟩] ++ [] = latencySamples latency := by
    simp only [latencySamples, List.append_assoc, List.cons_append, List.nil_append, List.append_nil]
  rw [shape, ← samples]
  exact all

end Latencies

section Page
variable {metrics : Metrics}

theorem perBackend_prints {name help : Bytes} (named : IsName name) (helps : 10 ∉ help) (entries : List (Bytes × Nat)) :
    Prints (perBackend name help entries) (entries.map (backendSample name)) (∀ entry ∈ entries, Quotable entry.1) := by
  have comments := @comments_print name help (ascii "counter") (named.other (by decide)) helps (by decide +kernel)
  have samples := @Prints.flatMap _ (fun entry : Bytes × Nat => labelled name (ascii "backend") entry.1 (decimal entry.2))
    (backendSample name) (fun entry => Quotable entry.1) entries fun entry _ =>
      labelled_prints named ⟨by decide, by decide +kernel⟩ (readNumber_decimal entry.2) (decimal_clear _ (by decide))
        (decimal_clear _ (by decide))
  have all := comments.append samples
  rwa [true_and, List.nil_append] at all

theorem listed_quotable {map : FiniteMap Bytes Nat} (listing : Listing map) :
    (∀ entry ∈ listing.entries, Quotable entry.1) ↔ ∀ name ∈ map.keys, Quotable name := by
  constructor
  · intro each name member
    obtain ⟨count, found⟩ := FiniteMap.find_of_mem_keys member
    exact each (name, count) ((listing.listed name count).mpr found)
  · rintro each ⟨name, count⟩ member
    exact each name (FiniteMap.mem_keys_of_find ((listing.listed name count).mp member))

/-- The page says what the metrics are, the sum to three decimals, exactly if no name of a backend has a quote, a backslash
or a line break in it. -/
theorem page_read (metrics : Metrics) (routed : Listing metrics.backendRouted) (failed : Listing metrics.backendFailures) :
    readPage (metrics.exportPrometheus routed failed) = some (pageSamples metrics routed failed) ↔
    (∀ name ∈ metrics.backendRouted.keys, Quotable name) ∧ ∀ name ∈ metrics.backendFailures.keys, Quotable name := by
  have series := @Prints.flatMap _ (fun series : Series => series.text metrics) (seriesSample metrics) (fun _ => True)
    allSeries fun series member => series_prints metrics (List.all_eq_true.mp allSeries_wellFormed series member)
  have requests := @perBackend_prints (ascii "lb_backend_requests_total") (ascii "Total requests routed to backend")
    ⟨by decide, by decide +kernel⟩ (by decide +kernel) routed.entries
  have errors := @perBackend_prints (ascii "lb_backend_errors_total") (ascii "Total backend connection errors")
    ⟨by decide, by decide +kernel⟩ (by decide +kernel) failed.entries
  have all := (((series.append (latency_prints metrics)).append requests).append blank_prints).append errors
  have broken : ascii "\n" = [10] := rfl
  rw [← listed_quotable routed, ← listed_quotable failed]
  unfold Metrics.exportPrometheus pageSamples
  rw [broken]
  simpa only [List.append_nil, implies_true, and_true, true_and] using all.whole

end Page

end Balancer.Guarantees.Scraping
