import FlashTicketing.Cumulative
import FlashTicketing.OrderedDict

namespace FlashTicketing

open Cumulative

/-!
# Percentiles of histograms

Three scripts reduce two scrapes of a Prometheus histogram to a bound below
which at least 95 percent of the observations between them lie:
`_histogram_p95` of `summarize_seatmap_load`, `upper_p95` of
`summarize_capacity` and `histogram_upper_bound` of `cloud_pressure_observe`.
The buckets of a scrape are cumulative: that of `le` counts the observations up
to it.  Numbers are rational.
-/

/-- The value of a label `le`; the top is `+Inf`. -/
abbrev Bound := WithTop ℚ

/-- A series, with the label `le` as a number beside the other labels. -/
structure MetricKey where
  name : String
  labels : List (String × String)
  le : Option Bound
  deriving DecidableEq

/-- A scrape. -/
abbrev MetricRows := OrderedDict MetricKey ℚ

/-- The series has the name and the labels. -/
def MetricKey.Named
    (key : MetricKey)
    (name : String)
    (labels : List (String × String)) : Prop :=
  key.name = name ∧
    ∀ label ∈ labels, key.labels.lookup label.1 = some label.2

instance (key : MetricKey) (name : String) (labels : List (String × String)) :
    Decidable (key.Named name labels) :=
  inferInstanceAs (Decidable (_ ∧ _))

/-- `rows.get(key, 0)`. -/
def MetricRows.value (rows : MetricRows) (key : MetricKey) : ℚ :=
  (rows.get? key).getD 0

/-- `buckets[bound] = buckets.get(bound, 0) + delta`. -/
def addTo
    (buckets : List (Bound × ℚ))
    (row : Bound × ℚ) : List (Bound × ℚ) :=
  match buckets with
  | [] => [row]
  | first :: rest =>
      if first.1 = row.1 then
        (first.1, first.2 + row.2) :: rest
      else
        first :: addTo rest row

/-! ## `_histogram_p95` -/

/-- What one row of the later scrape adds to `bucket_deltas`. -/
def bucketDelta
    (start : MetricRows)
    (name : String)
    (labels : List (String × String))
    (row : MetricKey × ℚ) : Option (Bound × ℚ) :=
  if row.1.Named (name ++ "_bucket") labels then
    match row.1.le with
    | none => none
    | some bound =>
        if row.2 - start.value row.1 ≤ 0 then
          none
        else
          some (bound, row.2 - start.value row.1)
  else
    none

/-- A bound in milliseconds, if it is finite. -/
def finiteMilliseconds (bound : Bound) : Option ℚ :=
  if bound = ⊤ then none else some (bound.untopD 0 * 1000)

/-- `_histogram_p95(start, end, prefix, labels)`. -/
def histogramP95
    (start finish : MetricRows)
    (name : String)
    (labels : List (String × String)) : Option ℚ :=
  let bucketDeltas :=
    (finish.items.filterMap (bucketDelta start name labels)).foldl addTo []
  let total := (bucketDeltas.map Prod.snd).sum
  if total = 0 then
    none
  else
    (search (total * (19 / 20)) 0 (sortRows bucketDeltas)).bind
      finiteMilliseconds

/-! ## `upper_p95` -/

/-- `delta` of `summarize`. -/
def seriesDeltas (start finish : MetricRows) : List (MetricKey × ℚ) :=
  finish.items.filterMap fun row =>
    if start.value row.1 ≤ row.2 then
      some (row.1, row.2 - start.value row.1)
    else
      none

/-- `total(name, **labels)`. -/
def seriesTotal
    (delta : List (MetricKey × ℚ))
    (name : String)
    (labels : List (String × String)) : ℚ :=
  ((delta.filter fun row => decide (row.1.Named name labels)).map
    Prod.snd).sum

/-- The bucket of a delta; the exporter gives every bucket its `le`. -/
def bucketRow
    (name : String)
    (labels : List (String × String))
    (row : MetricKey × ℚ) : Option (Bound × ℚ) :=
  if row.1.Named (name ++ "_bucket") labels then
    row.1.le.map fun bound => (bound, row.2)
  else
    none

/-- `upper_p95(prefix, **labels)`, in milliseconds. -/
def upperP95
    (start finish : MetricRows)
    (name : String)
    (labels : List (String × String)) : Option Bound :=
  let delta := seriesDeltas start finish
  let count := seriesTotal delta (name ++ "_count") labels
  if count = 0 then
    none
  else
    let buckets := (delta.filterMap (bucketRow name labels)).foldl addTo []
    ((sortRows buckets).find? fun row =>
      decide (count * (19 / 20) ≤ row.2)).map fun row => row.1.map (· * 1000)

/-! ## `histogram_upper_bound` -/

/-- `counter_delta(start, end, name, labels)`. -/
def counterDelta
    (start finish : MetricRows)
    (name : String)
    (labels : List (String × String)) : ℚ :=
  max 0 (finish.value ⟨name, labels, none⟩ - start.value ⟨name, labels, none⟩)

/-- What one row of the later scrape adds to `buckets`. -/
def positiveDelta
    (start : MetricRows)
    (name : String)
    (labels : List (String × String))
    (row : MetricKey × ℚ) : Option (Bound × ℚ) :=
  if row.1.Named (name ++ "_bucket") labels then
    row.1.le.map fun bound => (bound, max 0 (row.2 - start.value row.1))
  else
    none

/-- `histogram_upper_bound`, with the labels of the counter as pairs. -/
def histogramUpperBound
    (start finish : MetricRows)
    (name : String)
    (fraction : ℚ)
    (requiredLabels countLabels : List (String × String)) : Option Bound :=
  let count := counterDelta start finish (name ++ "_count") countLabels
  if count ≤ 0 then
    none
  else
    ((sortRows
      (finish.items.filterMap
        (positiveDelta start name requiredLabels))).find? fun row =>
          decide (count * fraction ≤ row.2)).map Prod.fst

/-! ## Scrapes of a histogram -/

/-- The observations up to a bound. -/
def countLe (observations : List ℚ) (bound : Bound) : Nat :=
  observations.countP fun observation : ℚ =>
    decide ((observation : Bound) ≤ bound)

/-- A histogram with its labels and its buckets. -/
structure HistogramSeries where
  name : String
  labels : List (String × String)
  labelsNodup : (labels.map Prod.fst).Nodup
  bounds : List Bound
  boundsNodup : bounds.Nodup
  unbounded : ⊤ ∈ bounds

namespace HistogramSeries

variable (series : HistogramSeries)

def bucketKey (bound : Bound) : MetricKey :=
  ⟨series.name ++ "_bucket", series.labels, some bound⟩

def countKey : MetricKey :=
  ⟨series.name ++ "_count", series.labels, none⟩

def sumKey : MetricKey :=
  ⟨series.name ++ "_sum", series.labels, none⟩

/-- What the exporter shows of the histogram. -/
def rows (observations : List ℚ) : List (MetricKey × ℚ) :=
  series.bounds.map (fun bound =>
      (series.bucketKey bound, (countLe observations bound : ℚ))) ++
    [(series.countKey, (observations.length : ℚ)),
      (series.sumKey, observations.sum)]

/-- The series is one of the histogram. -/
def Owns (key : MetricKey) : Prop :=
  key.Named (series.name ++ "_bucket") series.labels ∨
    key.Named (series.name ++ "_count") series.labels ∨
    key.Named (series.name ++ "_sum") series.labels

instance (key : MetricKey) : Decidable (series.Owns key) :=
  inferInstanceAs (Decidable (_ ∨ _))

/-- The scrape shows the histogram, in any order and among other series. -/
def Shows (observations : List ℚ) (scrape : MetricRows) : Prop :=
  (scrape.items.filter fun row => decide (series.Owns row.1)).Perm
    (series.rows observations)

end HistogramSeries

/-- Two scrapes of a histogram and the observations before and between them. -/
structure HistogramWindow where
  series : HistogramSeries
  before : List ℚ
  during : List ℚ
  nonempty : during ≠ []
  start : MetricRows
  finish : MetricRows
  startShows : series.Shows before start
  finishShows : series.Shows (before ++ during) finish

/-! ## The rows of a scrape -/

namespace HistogramSeries

variable
  {series : HistogramSeries}
  {observations : List ℚ}
  {scrape : MetricRows}

/-- A dictionary has its own labels. -/
theorem lookup_of_mem
    {labels : List (String × String)}
    (distinct : (labels.map Prod.fst).Nodup) :
    ∀ label ∈ labels, labels.lookup label.1 = some label.2 := by
  induction labels with
  | nil =>
      intro label member
      cases member
  | cons first rest inductionHypothesis =>
      obtain ⟨new, others⟩ := List.nodup_cons.mp distinct
      intro label member
      rcases List.mem_cons.mp member with rfl | behind
      · simp [List.lookup]
      · have differs : label.1 ≠ first.1 := by
          intro same
          exact new (same ▸ List.mem_map_of_mem behind)
        rw [List.lookup_cons, beq_eq_false_iff_ne.mpr differs]
        exact inductionHypothesis others label behind

theorem bucketKey_named
    (bound : Bound) :
    (series.bucketKey bound).Named (series.name ++ "_bucket")
      series.labels :=
  ⟨rfl, lookup_of_mem series.labelsNodup⟩

theorem countKey_named :
    series.countKey.Named (series.name ++ "_count") series.labels :=
  ⟨rfl, lookup_of_mem series.labelsNodup⟩

/-- Names with suffixes of different lengths differ. -/
theorem append_ne
    {name first second : String}
    (lengths : first.length ≠ second.length) :
    name ++ first ≠ name ++ second := by
  intro same
  apply lengths
  have total := congrArg String.length same
  simpa using total

theorem not_named
    {key : MetricKey}
    {name : String}
    {labels : List (String × String)}
    (differs : key.name ≠ name) :
    ¬ key.Named name labels :=
  fun named => differs named.1

/-- A row of the histogram is in the scrape. -/
theorem Shows.value_of_mem
    {row : MetricKey × ℚ}
    (shows : series.Shows observations scrape)
    (member : row ∈ series.rows observations) :
    scrape.value row.1 = row.2 := by
  have inside : row ∈ scrape.items :=
    (List.mem_filter.mp (shows.mem_iff.mpr member)).1
  rw [MetricRows.value, OrderedDict.get?_of_mem inside]
  rfl

theorem Shows.value_bucket
    {bound : Bound}
    (shows : series.Shows observations scrape)
    (isBound : bound ∈ series.bounds) :
    scrape.value (series.bucketKey bound) = countLe observations bound := by
  have member :
      (series.bucketKey bound, (countLe observations bound : ℚ)) ∈
        series.rows observations := by
    apply List.mem_append_left
    exact List.mem_map.mpr ⟨bound, isBound, rfl⟩
  exact shows.value_of_mem member

theorem Shows.value_count
    (shows : series.Shows observations scrape) :
    scrape.value series.countKey = observations.length := by
  have member :
      (series.countKey, (observations.length : ℚ)) ∈
        series.rows observations := by
    apply List.mem_append_right
    exact List.mem_cons_self
  exact shows.value_of_mem member

/-- What is selected from a scrape depends on the histogram's rows only. -/
theorem Shows.filterMap_perm
    {Selected : Type}
    {select : MetricKey × ℚ → Option Selected}
    (shows : series.Shows observations scrape)
    (others : ∀ row, ¬ series.Owns row.1 → select row = none) :
    (scrape.items.filterMap select).Perm
      ((series.rows observations).filterMap select) := by
  have owned :
      scrape.items.filterMap select =
        (scrape.items.filter fun row =>
          decide (series.Owns row.1)).filterMap select := by
    rw [List.filterMap_filter]
    apply List.filterMap_congr
    intro row _
    by_cases owns : series.Owns row.1
    · simp [owns]
    · simp [owns, others row owns]
  rw [owned]
  exact shows.filterMap select

/-- A selection of buckets sees the buckets. -/
theorem filterMap_rows
    {Selected : Type}
    {select : MetricKey × ℚ → Option Selected}
    (buckets :
      ∀ row,
        ¬ row.1.Named (series.name ++ "_bucket") series.labels →
        select row = none) :
    (series.rows observations).filterMap select =
      series.bounds.filterMap fun bound =>
        select (series.bucketKey bound, (countLe observations bound : ℚ)) := by
  have noCount : select (series.countKey, (observations.length : ℚ)) = none :=
    buckets _ (not_named (append_ne (by decide)))
  have noSum : select (series.sumKey, observations.sum) = none :=
    buckets _ (not_named (append_ne (by decide)))
  rw [rows, List.filterMap_append, List.filterMap_map]
  simp [noCount, noSum]

/-- A selection of the counter sees the counter. -/
theorem filterMap_rows_count
    {Selected : Type}
    {select : MetricKey × ℚ → Option Selected}
    (counter :
      ∀ row,
        ¬ row.1.Named (series.name ++ "_count") series.labels →
        select row = none) :
    (series.rows observations).filterMap select =
      (select (series.countKey, (observations.length : ℚ))).toList := by
  have noBucket (bound : Bound) :
      select (series.bucketKey bound, (countLe observations bound : ℚ)) =
        none :=
    counter _ (not_named (append_ne (by decide)))
  have noSum : select (series.sumKey, observations.sum) = none :=
    counter _ (not_named (append_ne (by decide)))
  have noBuckets :
      (series.bounds.map fun bound =>
        (series.bucketKey bound, (countLe observations bound : ℚ))).filterMap
          select = [] := by
    rw [List.filterMap_map, List.filterMap_eq_nil_iff]
    intro bound _
    exact noBucket bound
  rw [rows, List.filterMap_append, noBuckets, List.nil_append]
  cases isCount : select (series.countKey, (observations.length : ℚ)) with
  | none => simp [isCount, noSum]
  | some value => simp [isCount, noSum]

end HistogramSeries

/-! ## The deltas of a window -/

theorem countLe_append
    (before during : List ℚ)
    (bound : Bound) :
    countLe (before ++ during) bound =
      countLe before bound + countLe during bound := by
  unfold countLe
  exact List.countP_append

/-- A larger bound covers more observations. -/
theorem countLe_mono
    (observations : List ℚ)
    {small large : Bound}
    (ordered : small ≤ large) :
    countLe observations small ≤ countLe observations large := by
  apply List.countP_mono_left
  intro observation _ below
  simp only [decide_eq_true_eq] at below ⊢
  exact le_trans below ordered

theorem countLe_top
    (observations : List ℚ) :
    countLe observations ⊤ = observations.length := by
  simp [countLe]

/-- Rows with distinct bounds fill a dictionary as they are. -/
theorem addTo_of_not_mem
    {buckets : List (Bound × ℚ)}
    {row : Bound × ℚ}
    (new : row.1 ∉ buckets.map Prod.fst) :
    addTo buckets row = buckets ++ [row] := by
  induction buckets with
  | nil => rfl
  | cons first rest inductionHypothesis =>
      simp only [List.map_cons, List.mem_cons, not_or] at new
      rw [addTo, if_neg (Ne.symm new.1), inductionHypothesis new.2]
      rfl

theorem foldl_addTo
    {rows buckets : List (Bound × ℚ)}
    (distinct : ((buckets ++ rows).map Prod.fst).Nodup) :
    rows.foldl addTo buckets = buckets ++ rows := by
  induction rows generalizing buckets with
  | nil => simp
  | cons row rest inductionHypothesis =>
      have new : row.1 ∉ buckets.map Prod.fst := by
        rw [List.map_append, List.map_cons] at distinct
        intro old
        exact (List.nodup_append.mp distinct).2.2 _ old _
          List.mem_cons_self rfl
      rw [List.foldl_cons, addTo_of_not_mem new, inductionHypothesis]
      · simp
      · simpa using distinct

namespace HistogramWindow

variable (window : HistogramWindow)

/-- The observations of the window up to a bound. -/
def reached (bound : Bound) : Nat :=
  countLe window.during bound

/-- The bounds with what each of them covers. -/
def rows : List (Bound × ℚ) :=
  window.series.bounds.map fun bound => (bound, (window.reached bound : ℚ))

theorem rows_bounds :
    window.rows.map Prod.fst = window.series.bounds := by
  rw [rows, List.map_map]
  exact List.map_id _

variable {window}

theorem mem_rows
    {bound : Bound}
    {value : ℚ} :
    (bound, value) ∈ window.rows ↔
      bound ∈ window.series.bounds ∧ value = window.reached bound := by
  constructor
  · intro member
    obtain ⟨other, isBound, same⟩ := List.mem_map.mp member
    cases same
    exact ⟨isBound, rfl⟩
  · rintro ⟨isBound, rfl⟩
    exact List.mem_map_of_mem isBound

/-- The difference of two cumulative counts counts the window. -/
theorem bucket_delta
    {bound : Bound}
    (isBound : bound ∈ window.series.bounds) :
    (countLe (window.before ++ window.during) bound : ℚ) -
        window.start.value (window.series.bucketKey bound) =
      window.reached bound := by
  rw [window.startShows.value_bucket isBound, countLe_append, reached]
  push_cast
  exact add_sub_cancel_left _ _

/-- A selection that gives each bucket its difference gives the rows. -/
theorem filterMap_buckets
    {select : MetricKey × ℚ → Option (Bound × ℚ)}
    (buckets :
      ∀ row,
        ¬ row.1.Named (window.series.name ++ "_bucket")
          window.series.labels →
        select row = none)
    (deltas :
      ∀ bound ∈ window.series.bounds,
        select (window.series.bucketKey bound,
            (countLe (window.before ++ window.during) bound : ℚ)) =
          some (bound, (window.reached bound : ℚ))) :
    (window.finish.items.filterMap select).Perm window.rows := by
  have shown :=
    window.finishShows.filterMap_perm fun row foreign =>
      buckets row fun named => foreign (Or.inl named)
  rw [HistogramSeries.filterMap_rows buckets,
    List.filterMap_congr deltas, List.filterMap_eq_map'] at shown
  exact shown

/-! ## The bound to select -/

variable (window)

/-- At least 95 percent of the window's observations lie up to the bound. -/
def Covers (bound : Bound) : Prop :=
  95 * window.during.length ≤ 100 * window.reached bound

/-- The smallest bound that covers 95 percent. -/
def IsP95 (bound : Bound) : Prop :=
  IsLeast { bound | bound ∈ window.series.bounds ∧ window.Covers bound } bound

variable {window}

theorem covers_iff
    {bound : Bound} :
    (window.during.length : ℚ) * (19 / 20) ≤ window.reached bound ↔
      window.Covers bound := by
  have cast :
      window.Covers bound ↔
        (95 : ℚ) * window.during.length ≤ 100 * window.reached bound := by
    unfold Covers
    exact_mod_cast Iff.rfl
  rw [cast]
  constructor
  · intro reaches
    linarith
  · intro covers
    linarith

theorem length_pos
    (window : HistogramWindow) :
    (0 : ℚ) < window.during.length := by
  have positive := List.length_pos_of_ne_nil window.nonempty
  exact_mod_cast positive

/-- The first sorted bucket with 95 percent is the smallest bound. -/
theorem IsP95.find?_eq
    {bound : Bound}
    {buckets : List (Bound × ℚ)}
    (isP95 : window.IsP95 bound)
    (perm : buckets.Perm window.rows) :
    ∃ value,
      ((sortRows buckets).find? fun row =>
        decide ((window.during.length : ℚ) * (19 / 20) ≤ row.2)) =
        some (bound, value) := by
  have distinct : (buckets.map Prod.fst).Nodup := by
    rw [(perm.map Prod.fst).nodup_iff, window.rows_bounds]
    exact window.series.boundsNodup
  have same := (sortRows_perm buckets).trans perm
  cases found :
      (sortRows buckets).find? fun row =>
        decide ((window.during.length : ℚ) * (19 / 20) ≤ row.2) with
  | none =>
      have member : (bound, (window.reached bound : ℚ)) ∈ sortRows buckets :=
        same.mem_iff.mpr (mem_rows.mpr ⟨isP95.1.1, rfl⟩)
      have fails := List.find?_eq_none.mp found _ member
      exact absurd (decide_eq_true (covers_iff.mpr isP95.1.2)) fails
  | some row =>
      obtain ⟨selected, value⟩ := row
      have least := isLeast_of_find? (increasing_sortRows distinct) found
      have sets :
          { other | ∃ value, (other, value) ∈ sortRows buckets ∧
            decide ((window.during.length : ℚ) * (19 / 20) ≤ value) =
              true } =
            { other | other ∈ window.series.bounds ∧
              window.Covers other } := by
        ext other
        constructor
        · rintro ⟨value, member, reaches⟩
          obtain ⟨isBound, rfl⟩ := mem_rows.mp (same.mem_iff.mp member)
          exact ⟨isBound, covers_iff.mp (of_decide_eq_true reaches)⟩
        · rintro ⟨isBound, covers⟩
          exact ⟨_, same.mem_iff.mpr (mem_rows.mpr ⟨isBound, rfl⟩),
            decide_eq_true (covers_iff.mpr covers)⟩
      refine ⟨value, ?_⟩
      have isSelected : selected = bound := by
        apply least.unique
        rw [sets]
        exact isP95
      rw [isSelected]

/-! ## The two reducers that use cumulative counts -/

theorem counterDelta_eq :
    counterDelta window.start window.finish (window.series.name ++ "_count")
        window.series.labels =
      window.during.length := by
  have finishCount := window.finishShows.value_count
  have startCount := window.startShows.value_count
  unfold HistogramSeries.countKey at finishCount startCount
  rw [counterDelta, finishCount, startCount, List.length_append]
  push_cast
  rw [add_sub_cancel_left]
  exact max_eq_right (le_of_lt window.length_pos)

theorem positiveDelta_perm :
    (window.finish.items.filterMap
      (positiveDelta window.start window.series.name
        window.series.labels)).Perm window.rows := by
  apply filterMap_buckets
  · intro row unnamed
    exact if_neg unnamed
  · intro bound isBound
    have named := window.series.bucketKey_named bound
    rw [positiveDelta, if_pos named]
    change some (bound, max 0 (_ - window.start.value
      (window.series.bucketKey bound))) = _
    rw [bucket_delta isBound, max_eq_right (Nat.cast_nonneg _)]

/-- `histogram_upper_bound` selects the right bound. -/
theorem IsP95.histogramUpperBound_eq
    {bound : Bound}
    (isP95 : window.IsP95 bound) :
    histogramUpperBound window.start window.finish window.series.name
        (19 / 20) window.series.labels window.series.labels =
      some bound := by
  obtain ⟨value, found⟩ := isP95.find?_eq positiveDelta_perm
  rw [histogramUpperBound]
  simp only [counterDelta_eq]
  rw [if_neg (not_le.mpr window.length_pos), found]
  rfl

/-- The buckets of `upper_p95`. -/
theorem bucketRow_perm
    (window : HistogramWindow) :
    ((seriesDeltas window.start window.finish).filterMap
      (bucketRow window.series.name window.series.labels)).Perm
        window.rows := by
  rw [seriesDeltas, List.filterMap_filterMap]
  apply filterMap_buckets
  · intro row unnamed
    split
    · exact if_neg unnamed
    · rfl
  · intro bound isBound
    have delta := bucket_delta isBound
    have grows : (0 : ℚ) ≤ window.reached bound := Nat.cast_nonneg _
    rw [if_pos (by linarith)]
    change bucketRow _ _ (window.series.bucketKey bound,
      _ - window.start.value (window.series.bucketKey bound)) = _
    rw [delta, bucketRow, if_pos (window.series.bucketKey_named bound)]
    rfl

/-- The count of `upper_p95`. -/
theorem seriesTotal_eq :
    seriesTotal (seriesDeltas window.start window.finish)
        (window.series.name ++ "_count") window.series.labels =
      window.during.length := by
  rw [seriesTotal, seriesDeltas, List.filter_filterMap, List.map_filterMap]
  have counter (row : MetricKey × ℚ)
      (unnamed :
        ¬ row.1.Named (window.series.name ++ "_count")
          window.series.labels) :
      ((if window.start.value row.1 ≤ row.2 then
          some (row.1, row.2 - window.start.value row.1)
        else none).filter fun delta =>
          decide (delta.1.Named (window.series.name ++ "_count")
            window.series.labels)).map Prod.snd = none := by
    split
    · simp [Option.filter, unnamed]
    · rfl
  have shown :=
    window.finishShows.filterMap_perm fun row foreign =>
      counter row fun named => foreign (Or.inr (Or.inl named))
  rw [shown.sum_eq, HistogramSeries.filterMap_rows_count counter]
  have startCount := window.startShows.value_count
  have grows :
      window.start.value window.series.countKey ≤
        ((window.before ++ window.during).length : ℚ) := by
    rw [startCount, List.length_append]
    push_cast
    linarith [window.length_pos]
  simp only [if_pos grows, Option.filter,
    decide_eq_true window.series.countKey_named, if_true, Option.map_some,
    Option.toList_some, List.sum_singleton]
  rw [startCount, List.length_append]
  push_cast
  exact add_sub_cancel_left _ _

/-- `upper_p95` selects the right bound. -/
theorem IsP95.upperP95_eq
    {bound : Bound}
    (isP95 : window.IsP95 bound) :
    upperP95 window.start window.finish window.series.name
        window.series.labels =
      some (bound.map (· * 1000)) := by
  have perm := window.bucketRow_perm
  have distinct := (perm.map Prod.fst).nodup_iff
  rw [window.rows_bounds] at distinct
  obtain ⟨value, found⟩ := isP95.find?_eq perm
  rw [upperP95]
  simp only [seriesTotal_eq]
  rw [if_neg (ne_of_gt window.length_pos),
    foldl_addTo (distinct.mpr window.series.boundsNodup), List.nil_append,
    found]
  rfl

/-! ## The reducer that cumulates again -/

variable (window)

/-- The sum of what the bounds up to a bound cover. -/
def cumulated (bound : Bound) : Nat :=
  ((window.series.bounds.filter fun other => decide (other ≤ bound)).map
    window.reached).sum

/-- The bound has 95 percent of the sum over all bounds. -/
def Cumulates (bound : Bound) : Prop :=
  95 * window.cumulated ⊤ ≤ 100 * window.cumulated bound

/-- The buckets that `_histogram_p95` keeps. -/
def positiveRows : List (Bound × ℚ) :=
  window.rows.filter fun row => decide (0 < row.2)

theorem upTo_rows
    (bound : Bound) :
    upTo window.rows bound = window.cumulated bound := by
  rw [upTo, rows, cumulated, List.filter_map, List.map_map,
    Nat.cast_list_sum, List.map_map]
  rfl

/-- Buckets without observations add nothing. -/
theorem upTo_positiveRows
    (bound : Bound) :
    upTo window.positiveRows bound = window.cumulated bound := by
  rw [← window.upTo_rows]
  apply upTo_filter
  intro row member dropped
  obtain ⟨other, _, rfl⟩ := List.mem_map.mp member
  have none : ¬ (0 : ℚ) < window.reached other := by simpa using dropped
  exact le_antisymm (not_lt.mp none) (Nat.cast_nonneg _)

/-- A bound without observations has nothing below it. -/
theorem cumulated_eq_zero
    {bound : Bound}
    (none : window.reached bound = 0) :
    window.cumulated bound = 0 := by
  apply List.sum_eq_zero
  intro count member
  obtain ⟨other, isOther, rfl⟩ := List.mem_map.mp member
  have below : other ≤ bound := by
    simpa using (List.mem_filter.mp isOther).2
  exact Nat.le_zero.mp (none ▸ countLe_mono window.during below)

theorem cumulated_top_pos : 0 < window.cumulated ⊤ := by
  have member :
      window.reached ⊤ ∈
        (window.series.bounds.filter fun other => decide (other ≤ ⊤)).map
          window.reached := by
    apply List.mem_map_of_mem
    exact List.mem_filter.mpr ⟨window.series.unbounded, by simp⟩
  apply lt_of_lt_of_le ?_ (List.single_le_sum (by simp) _ member)
  rw [reached, countLe_top]
  exact List.length_pos_of_ne_nil window.nonempty

variable {window}

theorem mem_positiveRows
    {bound : Bound}
    {value : ℚ} :
    (bound, value) ∈ window.positiveRows ↔
      bound ∈ window.series.bounds ∧ value = window.reached bound ∧
        0 < value := by
  rw [positiveRows, List.mem_filter, mem_rows, and_assoc]
  simp

/-- What fills `bucket_deltas`. -/
def deltas (window : HistogramWindow) : List (Bound × ℚ) :=
  window.finish.items.filterMap
    (bucketDelta window.start window.series.name window.series.labels)

theorem deltas_perm
    (window : HistogramWindow) :
    window.deltas.Perm window.positiveRows := by
  have buckets (row : MetricKey × ℚ)
      (unnamed :
        ¬ row.1.Named (window.series.name ++ "_bucket")
          window.series.labels) :
      bucketDelta window.start window.series.name window.series.labels row =
        none :=
    if_neg unnamed
  have shown :=
    window.finishShows.filterMap_perm fun row foreign =>
      buckets row fun named => foreign (Or.inl named)
  rw [HistogramSeries.filterMap_rows buckets] at shown
  apply shown.trans
  apply List.Perm.of_eq
  rw [positiveRows, rows, List.filter_map, ← List.filterMap_eq_map',
    List.filterMap_filter]
  apply List.filterMap_congr
  intro bound isBound
  rw [bucketDelta, if_pos (window.series.bucketKey_named bound)]
  change (if _ - window.start.value (window.series.bucketKey bound) ≤ 0 then
    none else some (bound, _ - window.start.value
      (window.series.bucketKey bound))) = _
  rw [bucket_delta isBound]
  by_cases none : (window.reached bound : ℚ) ≤ 0
  · rw [if_pos none]
    simp [not_lt.mpr none]
  · rw [if_neg none]
    simp [not_le.mp none]

theorem deltas_distinct
    (window : HistogramWindow) :
    (window.deltas.map Prod.fst).Nodup := by
  rw [(window.deltas_perm.map Prod.fst).nodup_iff]
  apply (List.filter_sublist.map Prod.fst).nodup
  rw [window.rows_bounds]
  exact window.series.boundsNodup

theorem deltas_total
    (window : HistogramWindow) :
    (window.deltas.map Prod.snd).sum = window.cumulated ⊤ := by
  rw [(window.deltas_perm.map Prod.snd).sum_eq, ← window.upTo_positiveRows]
  simp [upTo]

theorem upTo_deltas
    (window : HistogramWindow)
    (bound : Bound) :
    0 + upTo (sortRows window.deltas) bound = window.cumulated bound := by
  rw [zero_add, upTo_perm ((sortRows_perm _).trans window.deltas_perm),
    window.upTo_positiveRows]

theorem mem_deltas
    {bound : Bound} :
    (∃ value, (bound, value) ∈ sortRows window.deltas) ↔
      bound ∈ window.series.bounds ∧ 0 < window.reached bound := by
  have sorted := (sortRows_perm window.deltas).trans window.deltas_perm
  constructor
  · rintro ⟨value, member⟩
    obtain ⟨isBound, rfl, positive⟩ :=
      mem_positiveRows.mp (sorted.mem_iff.mp member)
    exact ⟨isBound, by exact_mod_cast positive⟩
  · rintro ⟨isBound, positive⟩
    exact ⟨_, sorted.mem_iff.mpr
      (mem_positiveRows.mpr ⟨isBound, rfl, by exact_mod_cast positive⟩)⟩

theorem Cumulates.reached_pos
    {bound : Bound}
    (cumulates : window.Cumulates bound) :
    0 < window.reached bound := by
  apply Nat.pos_of_ne_zero
  intro none
  have nothing := window.cumulated_eq_zero none
  have positive := window.cumulated_top_pos
  unfold Cumulates at cumulates
  omega

theorem cumulates_iff
    {bound : Bound} :
    (window.cumulated ⊤ : ℚ) * (19 / 20) ≤ window.cumulated bound ↔
      window.Cumulates bound := by
  have cast :
      window.Cumulates bound ↔
        (95 : ℚ) * window.cumulated ⊤ ≤ 100 * window.cumulated bound := by
    unfold Cumulates
    exact_mod_cast Iff.rfl
  rw [cast]
  constructor
  · intro reaches
    linarith
  · intro cumulates
    linarith

/-- `_histogram_p95` selects by the sum of cumulative counts. -/
theorem histogramP95_eq
    (window : HistogramWindow) :
    ∃ bound,
      histogramP95 window.start window.finish window.series.name
          window.series.labels =
        finiteMilliseconds bound ∧
      IsLeast { bound | bound ∈ window.series.bounds ∧
        window.Cumulates bound } bound := by
  have sumPositive : (0 : ℚ) < window.cumulated ⊤ := by
    exact_mod_cast window.cumulated_top_pos
  have whole : window.Cumulates ⊤ := by
    unfold Cumulates
    omega
  obtain ⟨value, top⟩ :=
    mem_deltas.mpr ⟨window.series.unbounded, whole.reached_pos⟩
  have reaches :
      ∃ row ∈ sortRows window.deltas,
        (window.cumulated ⊤ : ℚ) * (19 / 20) ≤
          0 + upTo (sortRows window.deltas) row.1 := by
    refine ⟨_, top, ?_⟩
    rw [window.upTo_deltas]
    exact cumulates_iff.mpr whole
  obtain ⟨bound, found, least⟩ :=
    search_isLeast (increasing_sortRows window.deltas_distinct) reaches
  refine ⟨bound, ?_, ?_⟩
  · have filled : window.deltas.foldl addTo [] = window.deltas :=
      foldl_addTo window.deltas_distinct
    unfold deltas at filled
    rw [histogramP95]
    simp only [filled]
    change (if (window.deltas.map Prod.snd).sum = 0 then none else
      (search ((window.deltas.map Prod.snd).sum * (19 / 20)) 0
        (sortRows window.deltas)).bind finiteMilliseconds) = _
    rw [window.deltas_total, if_neg (ne_of_gt sumPositive), found]
    rfl
  · have sets :
        { other | other ∈ window.series.bounds ∧ window.Cumulates other } =
          { other | ∃ value, (other, value) ∈ sortRows window.deltas ∧
            (window.cumulated ⊤ : ℚ) * (19 / 20) ≤
              0 + upTo (sortRows window.deltas) other } := by
      ext other
      simp only [Set.mem_ofPred_eq, window.upTo_deltas, cumulates_iff]
      constructor
      · rintro ⟨isBound, cumulates⟩
        obtain ⟨value, member⟩ :=
          mem_deltas.mpr ⟨isBound, cumulates.reached_pos⟩
        exact ⟨value, member, cumulates⟩
      · rintro ⟨value, member, cumulates⟩
        exact ⟨(mem_deltas.mp ⟨value, member⟩).1, cumulates⟩
    rw [sets]
    exact least

/-! ## When the reducers agree -/

theorem finiteMilliseconds_injective :
    Function.Injective finiteMilliseconds := by
  intro first second same
  unfold finiteMilliseconds at same
  induction first using WithTop.recTopCoe with
  | top =>
      by_cases isTop : second = ⊤
      · exact isTop.symm
      · simp [isTop] at same
  | coe first =>
      induction second using WithTop.recTopCoe with
      | top => simp at same
      | coe second =>
          have equal : first = second := by simpa using same
          rw [equal]

/-- Some bound covers 95 percent, as the last one covers everything. -/
theorem exists_isP95
    (window : HistogramWindow) :
    ∃ bound, window.IsP95 bound := by
  have finite :
      { bound | bound ∈ window.series.bounds ∧
        window.Covers bound }.Finite :=
    (List.finite_toSet window.series.bounds).subset fun _ both => both.1
  have whole : window.Covers ⊤ := by
    unfold Covers reached
    rw [countLe_top]
    omega
  obtain ⟨bound, member, least⟩ :=
    Set.exists_min_image _ id finite ⟨⊤, window.series.unbounded, whole⟩
  exact ⟨bound, member, fun other isOther => least other isOther⟩

/-- All three reducers select the bound. -/
def Agree (window : HistogramWindow) (bound : Bound) : Prop :=
  histogramP95 window.start window.finish window.series.name
      window.series.labels =
    finiteMilliseconds bound ∧
  upperP95 window.start window.finish window.series.name
      window.series.labels =
    some (bound.map (· * 1000)) ∧
  histogramUpperBound window.start window.finish window.series.name
      (19 / 20) window.series.labels window.series.labels =
    some bound

/-- The reducers agree where the right bound is the first that cumulates. -/
theorem agree_iff_isLeast
    (window : HistogramWindow) :
    (∀ bound, window.IsP95 bound → window.Agree bound) ↔
      ∀ bound, window.IsP95 bound →
        IsLeast { other | other ∈ window.series.bounds ∧
          window.Cumulates other } bound := by
  obtain ⟨selected, isSelected, least⟩ := window.histogramP95_eq
  constructor
  · intro agree bound isP95
    have same : bound = selected :=
      finiteMilliseconds_injective
        ((agree bound isP95).1.symm.trans isSelected)
    rw [same]
    exact least
  · intro first bound isP95
    have same : bound = selected := (first bound isP95).unique least
    refine ⟨?_, isP95.upperP95_eq, isP95.histogramUpperBound_eq⟩
    rw [isSelected, same]

/-! ### At most twenty bounds -/

variable (window) in
/-- Fewer than 95 percent of the observations lie up to any finite bound. -/
def Overflows : Prop :=
  ∀ bound ∈ window.series.bounds, bound ≠ ⊤ → ¬ window.Covers bound

theorem reached_le
    (window : HistogramWindow)
    (bound : Bound) :
    window.reached bound ≤ window.during.length :=
  List.countP_le_length

/-- Everything that a bound leaves is at least the whole count at the top. -/
theorem cumulated_add_length_le
    {bound : Bound}
    (finite : bound ≠ ⊤) :
    window.cumulated bound + window.during.length ≤ window.cumulated ⊤ := by
  have parts :=
    List.filter_append_perm (fun other => decide (other ≤ bound))
      window.series.bounds
  have sums := (parts.map window.reached).sum_eq
  rw [List.map_append, List.sum_append] at sums
  have top :
      window.reached ⊤ ∈
        (window.series.bounds.filter fun other =>
          !decide (other ≤ bound)).map window.reached := by
    apply List.mem_map_of_mem
    exact List.mem_filter.mpr ⟨window.series.unbounded, by simpa using finite⟩
  have above := List.single_le_sum (fun _ _ => Nat.zero_le _) _ top
  have whole :
      window.cumulated ⊤ = (window.series.bounds.map window.reached).sum := by
    simp [cumulated]
  rw [whole, ← sums]
  apply Nat.add_le_add_left
  rw [reached, countLe_top] at above
  exact above

/-- Bounds that do not cover 95 percent reach less than 95 percent each. -/
theorem sum_reached_le
    {bounds : List Bound}
    (uncovered : ∀ bound ∈ bounds, ¬ window.Covers bound) :
    20 * (bounds.map window.reached).sum ≤
      19 * window.during.length * bounds.length := by
  induction bounds with
  | nil => simp
  | cons first rest inductionHypothesis =>
      have fewer :=
        inductionHypothesis fun bound member =>
          uncovered bound (List.mem_cons_of_mem first member)
      have little := uncovered first List.mem_cons_self
      unfold Covers at little
      rw [List.map_cons, List.sum_cons, List.length_cons, Nat.mul_succ]
      omega

/--
Up to a bound with nothing covered below it, nineteen finite bounds are too few
to make up for the count at the top.
-/
theorem not_cumulates
    {bound : Bound}
    (few : window.series.bounds.length ≤ 20)
    (isBound : bound ∈ window.series.bounds)
    (finite : bound ≠ ⊤)
    (below :
      ∀ other ∈ window.series.bounds, other < bound →
        ¬ window.Covers other) :
    ¬ window.Cumulates bound := by
  let upTo := window.series.bounds.filter fun other => decide (other ≤ bound)
  have member : bound ∈ upTo := List.mem_filter.mpr ⟨isBound, by simp⟩
  have split := List.perm_cons_erase member
  have total :
      window.cumulated bound =
        window.reached bound +
          ((upTo.erase bound).map window.reached).sum :=
    (split.map window.reached).sum_eq
  have uncovered : ∀ other ∈ upTo.erase bound, ¬ window.Covers other := by
    intro other inside
    have distinct : upTo.Nodup := window.series.boundsNodup.filter _
    obtain ⟨differs, within⟩ := distinct.mem_erase_iff.mp inside
    obtain ⟨isOther, ordered⟩ := List.mem_filter.mp within
    exact below other isOther
      (lt_of_le_of_ne (by simpa using ordered) differs)
  have shorter : upTo.length < window.series.bounds.length := by
    apply List.length_filter_lt_length_iff_exists.mpr
    exact ⟨⊤, window.series.unbounded, by simpa using finite⟩
  have fewer : (upTo.erase bound).length ≤ 18 := by
    rw [List.length_erase_of_mem member]
    omega
  have sums := sum_reached_le uncovered
  have atMost :
      19 * window.during.length * (upTo.erase bound).length ≤
        19 * window.during.length * 18 :=
    Nat.mul_le_mul_left _ fewer
  have single := window.reached_le bound
  have some := List.length_pos_of_ne_nil window.nonempty
  have rest :
      window.cumulated bound + window.during.length ≤ window.cumulated ⊤ :=
    cumulated_add_length_le finite
  unfold Cumulates
  omega

theorem agree_iff_overflows
    (few : window.series.bounds.length ≤ 20) :
    (∀ bound, window.IsP95 bound → window.Agree bound) ↔
      window.Overflows := by
  rw [agree_iff_isLeast]
  constructor
  · intro first bound isBound finite covers
    obtain ⟨least, isP95⟩ := window.exists_isP95
    have leastFinite : least ≠ ⊤ :=
      ne_top_of_le_ne_top finite (isP95.2 ⟨isBound, covers⟩)
    apply not_cumulates few isP95.1.1 leastFinite
    · intro other isOther smaller otherCovers
      exact not_le_of_gt smaller (isP95.2 ⟨isOther, otherCovers⟩)
    · exact (first least isP95).1.2
  · intro overflows bound isP95
    have isTop : bound = ⊤ := by
      by_contra finite
      exact overflows bound isP95.1.1 finite isP95.1.2
    have whole : window.Cumulates ⊤ := by
      unfold Cumulates
      omega
    rw [isTop]
    refine ⟨⟨window.series.unbounded, whole⟩, ?_⟩
    rintro other ⟨isOther, reaches⟩
    by_contra finite
    apply not_cumulates few isOther (ne_top_of_lt (not_le.mp finite)) ?_ reaches
    intro smaller isSmaller below
    exact overflows smaller isSmaller (ne_top_of_lt below)

/-! ### Any number of bounds -/

variable (window) in
/-- The pairs of an observation and a selected bound that it lies up to. -/
def pairs (selects : Bound → Bool) : Nat :=
  (window.during.map fun observation : ℚ =>
    window.series.bounds.countP fun bound =>
      decide ((observation : Bound) ≤ bound) && selects bound).sum

variable (window) in
/-- At most a twentieth of the pairs is beyond the bound, more is not below. -/
def Divides (bound : Bound) : Prop :=
  20 * window.pairs (fun other => decide (bound < other)) ≤
      window.pairs (fun _ => true) ∧
    window.pairs (fun _ => true) <
      20 * window.pairs (fun other => decide (bound ≤ other))

variable (window) in
/--
What the observations have to be like.  With at most twenty bounds they have to
pass the largest finite one.
-/
def Spread : Prop :=
  if window.series.bounds.length ≤ 20 then
    window.Overflows
  else
    ∀ bound, window.IsP95 bound → window.Divides bound

theorem pairs_eq
    (window : HistogramWindow)
    (selects : Bound → Bool) :
    window.pairs selects =
      ((window.series.bounds.filter selects).map window.reached).sum := by
  have counted (observations : List ℚ) :
      (observations.map fun observation : ℚ =>
        window.series.bounds.countP fun bound =>
          decide ((observation : Bound) ≤ bound) && selects bound).sum =
        ((window.series.bounds.filter selects).map
          (countLe observations)).sum := by
    induction observations with
    | nil => simp [show countLe [] = fun _ => 0 from rfl]
    | cons first rest inductionHypothesis =>
        have one (bound : Bound) :
            countLe (first :: rest) bound =
              countLe rest bound +
                if (first : Bound) ≤ bound then 1 else 0 := by
          simp [countLe, List.countP_cons]
        have split :
            ((window.series.bounds.filter selects).map
                (countLe (first :: rest))).sum =
              ((window.series.bounds.filter selects).map
                  (countLe rest)).sum +
                (window.series.bounds.filter selects).countP fun bound =>
                  decide ((first : Bound) ≤ bound) := by
          generalize window.series.bounds.filter selects = selected
          induction selected with
          | nil => rfl
          | cons bound others sums =>
              simp only [List.map_cons, List.sum_cons, List.countP_cons, sums,
                one, decide_eq_true_eq]
              omega
        rw [List.map_cons, List.sum_cons, inductionHypothesis, split,
          List.countP_filter, Nat.add_comm]
  exact counted window.during

/-- The pairs up to a bound make its running sum. -/
theorem cumulated_add_pairs
    (window : HistogramWindow)
    (bound : Bound) :
    window.cumulated bound +
        window.pairs (fun other => decide (bound < other)) =
      window.pairs fun _ => true := by
  have parts :=
    List.filter_append_perm (fun other => decide (other ≤ bound))
      window.series.bounds
  have sums := (parts.map window.reached).sum_eq
  have beyond :
      (fun other => !decide (other ≤ bound)) =
        fun other : Bound => decide (bound < other) := by
    funext other
    simp [← decide_not]
  rw [List.map_append, List.sum_append, beyond] at sums
  rw [pairs_eq, pairs_eq, List.filter_true]
  exact sums

theorem cumulated_top_eq
    (window : HistogramWindow) :
    window.cumulated ⊤ = window.pairs fun _ => true := by
  have none :
      window.pairs (fun other => decide (⊤ < other)) = 0 := by
    rw [pairs_eq]
    simp
  have whole := window.cumulated_add_pairs ⊤
  omega

/-- The bounds below one are all bounds up to some bound, or none. -/
theorem pairs_below
    (window : HistogramWindow)
    (bound : Bound) :
    window.pairs (fun other => decide (bound ≤ other)) =
        window.pairs (fun _ => true) ∨
      ∃ other ∈ window.series.bounds, other < bound ∧
        window.pairs (fun above => decide (other < above)) =
          window.pairs fun above => decide (bound ≤ above) := by
  by_cases first : ∃ other ∈ window.series.bounds, other < bound
  · right
    have finite :
        { other | other ∈ window.series.bounds ∧ other < bound }.Finite :=
      (List.finite_toSet window.series.bounds).subset fun _ both => both.1
    obtain ⟨other, ⟨isOther, below⟩, greatest⟩ :=
      Set.exists_max_image _ id finite first
    refine ⟨other, isOther, below, ?_⟩
    rw [pairs_eq, pairs_eq]
    congr 2
    apply List.filter_congr
    intro above isAbove
    rw [decide_eq_decide]
    constructor
    · intro larger
      by_contra smaller
      have within := greatest above ⟨isAbove, not_le.mp smaller⟩
      exact not_le_of_gt larger within
    · exact lt_of_lt_of_le below
  · left
    rw [pairs_eq, pairs_eq]
    congr 2
    apply List.filter_congr
    intro other isOther
    rw [decide_eq_true_iff]
    by_contra below
    exact first ⟨other, isOther, not_le.mp below⟩

/-- The bound that divides the pairs is the first that cumulates. -/
theorem divides_iff
    {bound : Bound}
    (isBound : bound ∈ window.series.bounds) :
    window.Divides bound ↔
      IsLeast { other | other ∈ window.series.bounds ∧
        window.Cumulates other } bound := by
  have cumulates (other : Bound) :
      window.Cumulates other ↔
        20 * window.pairs (fun above => decide (other < above)) ≤
          window.pairs fun _ => true := by
    have whole := window.cumulated_add_pairs other
    unfold Cumulates
    rw [window.cumulated_top_eq]
    omega
  constructor
  · rintro ⟨few, many⟩
    refine ⟨⟨isBound, (cumulates bound).mpr few⟩, ?_⟩
    rintro other ⟨isOther, reaches⟩
    by_contra below
    have fewAbove := (cumulates other).mp reaches
    have more :
        window.pairs (fun above => decide (bound ≤ above)) ≤
          window.pairs fun above => decide (other < above) := by
      rw [pairs_eq, pairs_eq]
      have fewer :
          (window.series.bounds.filter fun above =>
              decide (bound ≤ above)).Sublist
            (window.series.bounds.filter fun above =>
              decide (other < above)) := by
        apply List.monotone_filter_right
        intro above atLeast
        simp only [decide_eq_true_eq] at atLeast ⊢
        exact lt_of_lt_of_le (not_le.mp below) atLeast
      exact (fewer.map window.reached).sum_le_sum fun _ _ => Nat.zero_le _
    omega
  · rintro ⟨⟨_, reaches⟩, least⟩
    refine ⟨(cumulates bound).mp reaches, ?_⟩
    rcases window.pairs_below bound with all | ⟨other, isOther, below, same⟩
    · have positive := window.cumulated_top_pos
      rw [window.cumulated_top_eq] at positive
      omega
    · have fails : ¬ window.Cumulates other := by
        intro otherReaches
        exact not_le_of_gt below (least ⟨isOther, otherReaches⟩)
      rw [cumulates other, same] at fails
      omega

theorem agree_iff_divides
    (window : HistogramWindow) :
    (∀ bound, window.IsP95 bound → window.Agree bound) ↔
      ∀ bound, window.IsP95 bound → window.Divides bound := by
  rw [agree_iff_isLeast]
  constructor
  · intro first bound isP95
    exact (divides_iff isP95.1.1).mpr (first bound isP95)
  · intro divides bound isP95
    exact (divides_iff isP95.1.1).mp (divides bound isP95)

/--
The reducers select the smallest bound with 95 percent of the observations
exactly if, with at most twenty bounds, the finite ones have fewer than 95
percent; with more, the right bound has to divide the pairs of an observation
and a bound above it.
-/
theorem histogram_reducers_agree_iff
    (window : HistogramWindow) :
    (∀ bound, window.IsP95 bound → window.Agree bound) ↔
      window.Spread := by
  unfold Spread
  by_cases few : window.series.bounds.length ≤ 20
  · rw [if_pos few]
    exact agree_iff_overflows few
  · rw [if_neg few]
    exact agree_iff_divides window

/-! ## One observation -/

/-- One bucket up to 100 milliseconds. -/
def smallSeries : HistogramSeries where
  name := "ticketing_db_query_seconds"
  labels := []
  labelsNodup := List.nodup_nil
  bounds := [((1 / 10 : ℚ) : Bound), ⊤]
  boundsNodup := by decide +kernel
  unbounded := by decide +kernel

/-- One observation of 50 milliseconds, and none before. -/
def oneObservation : HistogramWindow where
  series := smallSeries
  before := []
  during := [1 / 20]
  nonempty := by decide
  start := ⟨smallSeries.rows [], by decide +kernel⟩
  finish := ⟨smallSeries.rows [1 / 20], by decide +kernel⟩
  startShows := by
    unfold HistogramSeries.Shows
    decide +kernel
  finishShows := by
    unfold HistogramSeries.Shows
    decide +kernel

/-- The observation counts in both buckets, so that the first has but half. -/
theorem histogram_reducers_disagree :
    ¬ ∀ (window : HistogramWindow) (bound : Bound),
      window.IsP95 bound → window.Agree bound := by
  intro agree
  have isP95 : oneObservation.IsP95 ((1 / 10 : ℚ) : Bound) := by
    refine ⟨⟨by decide +kernel, by unfold Covers; decide +kernel⟩, ?_⟩
    have least :
        ∀ other ∈ oneObservation.series.bounds,
          ((1 / 10 : ℚ) : Bound) ≤ other := by
      decide +kernel
    exact fun other both => least other both.1
  have selected := (agree oneObservation _ isP95).1
  revert selected
  decide +kernel

end HistogramWindow

end FlashTicketing
