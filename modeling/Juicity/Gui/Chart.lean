import Juicity.Gui.Traffic
import Juicity.Machine.Bezier
import Juicity.Machine.Collect

/-!
Owns the curves of the traffic chart: `monotone_segments` and `chart_curves` of
`gui/src/ui/controller/logs.rs`, in exact rational arithmetic. An index out of its
list and a quotient by zero are no result, and the curves of any values are one.

Contract: a segment joins two consecutive samples, its tangents are those of its
neighbours, and between its samples it does not turn back.
-/

namespace Juicity.Gui.Chart

open Juicity.Gui.Traffic Juicity.Machine

/-- `Segment`: a cubic Bézier curve from `start` to `stop`, with a control point at each. -/
structure Segment where
  start : ℚ × ℚ
  leaving : ℚ × ℚ
  arriving : ℚ × ℚ
  stop : ℚ × ℚ
deriving DecidableEq

/-- A quotient, which zero does not have. -/
def divide (left right : ℚ) : Option ℚ := if right = 0 then none else some (left / right)

/-- The differences of consecutive values. -/
def slopesOf (values : List ℚ) : List ℚ :=
  List.zipWith (fun before after => after - before) values values.tail

/-- `index.checked_sub(1).map(|i| slopes[i])`. -/
def slopeBefore (slopes : List ℚ) : Nat → Option (Option ℚ)
  | 0 => some none
  | index + 1 => (slopes[index]?).map some

def tangent (slopes : List ℚ) (index : Nat) : Option ℚ := do
  let before ← slopeBefore slopes index
  match before, slopes[index]? with
  | some before, some after =>
      if 0 < before * after then divide (2 * before * after) (before + after) else some 0
  | none, some only => some only
  | some only, none => some only
  | none, none => some 0

/-- The segment behind a slot, between two samples with their tangents. -/
def segmentOf (index : Nat) (start stop leaving arriving : ℚ) : Segment where
  start := (index, start)
  leaving := (index + 1 / 3, start + leaving / 3)
  arriving := (index + 2 / 3, stop - arriving / 3)
  stop := (index + 1, stop)

def segment (values slopes : List ℚ) (index : Nat) : Option Segment := do
  let start ← values[index]?
  let stop ← values[index + 1]?
  let leaving ← tangent slopes index
  let arriving ← tangent slopes (index + 1)
  return segmentOf index start stop leaving arriving

def monotoneSegments (values : List ℚ) : Option (List Segment) :=
  let slopes := slopesOf values
  (List.range slopes.length).mapM (segment values slopes)

-- A rise to a peak: the tangent of the first sample is its slope, and the peak has none.
example : monotoneSegments [0, 3, 0] =
    some [⟨(0, 0), (1 / 3, 1), (2 / 3, 3), (1, 3)⟩, ⟨(1, 3), (4 / 3, 3), (5 / 3, 1), (2, 0)⟩] := by
  decide +kernel

/-- `SCALE_FLOOR`. -/
def scaleFloor : ℚ := 1024

/-- What the chart reads of a `TrafficSnapshot`. -/
structure TrafficSnapshot where
  samples : List (Speed ℚ)
  peakUp : ℚ
  peakDown : ℚ

/-- The values of one curve: `0` in the slots before the first sample. -/
def series (samples : List (Speed ℚ)) (scale : ℚ) (pick : Speed ℚ → ℚ) : List ℚ :=
  List.replicate (history - samples.length) 0 ++
    samples.map fun sample => max 0 (min (pick sample / scale) 1)

def chartCurves (snapshot : TrafficSnapshot) : Option (List Segment × List Segment) := do
  let scale := max (max snapshot.peakDown snapshot.peakUp) scaleFloor
  let samples := snapshot.samples.drop (snapshot.samples.length - history)
  if samples.length < 2 then return ([], [])
  let down ← monotoneSegments (series samples scale Speed.down)
  let up ← monotoneSegments (series samples scale Speed.up)
  return (down, up)

/-! ## Tangents -/

theorem slopesOf_eq_some {values : List ℚ} {index : Nat} {start stop : ℚ}
    (first : values[index]? = some start) (second : values[index + 1]? = some stop) :
    (slopesOf values)[index]? = some (stop - start) := by
  rw [slopesOf, List.getElem?_zipWith, first, List.getElem?_tail, second]

theorem length_slopesOf (values : List ℚ) : (slopesOf values).length = values.length - 1 := by
  rw [slopesOf, List.length_zipWith, List.length_tail]
  omega

theorem slopeBefore_some {slopes : List ℚ} {index : Nat} (within : index ≤ slopes.length) :
    ∃ before, slopeBefore slopes index = some before := by
  cases index with
  | zero => exact ⟨none, rfl⟩
  | succ earlier =>
      refine ⟨some slopes[earlier], ?_⟩
      rw [slopeBefore, List.getElem?_eq_getElem within]
      rfl

/-- A slope next to a sample. -/
def Beside (slopes : List ℚ) (index : Nat) (slope : ℚ) : Prop :=
  slopeBefore slopes index = some (some slope) ∨ slopes[index]? = some slope

/-- Every sample has a tangent, and a third of it does not reach past a slope next to it. -/
theorem tangent_spec {slopes : List ℚ} {index : Nat} (within : index ≤ slopes.length) :
    ∃ value, tangent slopes index = some value ∧
      ∀ slope, Beside slopes index slope → value / 3 ∈ Set.uIcc 0 slope := by
  obtain ⟨before, known⟩ := slopeBefore_some within
  unfold tangent Beside
  rw [known]
  cases slopes[index]? with
  | none =>
      cases before with
      | none =>
          refine ⟨0, rfl, ?_⟩
          rintro slope (same | same)
          all_goals cases same
      | some only =>
          refine ⟨only, rfl, ?_⟩
          rintro slope (same | same)
          all_goals cases same
          exact Bezier.third_mem only
  | some after =>
      cases before with
      | none =>
          refine ⟨after, rfl, ?_⟩
          rintro slope (same | same)
          all_goals cases same
          exact Bezier.third_mem after
      | some before =>
          by_cases agree : 0 < before * after
          · refine ⟨2 * before * after / (before + after), ?_, ?_⟩
            · exact (if_pos agree).trans (if_neg (Bezier.add_ne_zero_of_mul_pos agree))
            · rintro slope (same | same)
              all_goals cases same
              · exact Bezier.harmonic_third_mem agree
              · exact Bezier.harmonic_third_mem_right agree
          · refine ⟨0, if_neg agree, fun slope _ => ?_⟩
            rw [zero_div]
            exact Set.left_mem_uIcc

/-! ## Segments -/

/-- The point of the curve at the time `t`. -/
def Segment.curve (segment : Segment) (t : ℚ) : ℚ × ℚ :=
  (Bezier.cubic segment.start.1 segment.leaving.1 segment.arriving.1 segment.stop.1 t,
    Bezier.cubic segment.start.2 segment.leaving.2 segment.arriving.2 segment.stop.2 t)

/-- The segment runs from the sample of a slot to the next one, its control points between. -/
structure Joins (values : List ℚ) (index : Nat) (segment : Segment) : Prop where
  start : values[index]?.map (fun value => ((index : ℚ), value)) = some segment.start
  stop : values[index + 1]?.map (fun value => ((index : ℚ) + 1, value)) = some segment.stop
  leavingSlot : segment.leaving.1 = index + 1 / 3
  arrivingSlot : segment.arriving.1 = index + 2 / 3
  leaving : segment.leaving.2 ∈ Set.uIcc segment.start.2 segment.stop.2
  arriving : segment.arriving.2 ∈ Set.uIcc segment.start.2 segment.stop.2

/-- The segments are there: no index and no quotient is missing. -/
theorem exists_segment {values : List ℚ} {index : Nat} (within : index + 1 < values.length) :
    ∃ segment, Chart.segment values (slopesOf values) index = some segment := by
  have width := length_slopesOf values
  obtain ⟨leaving, leaves, _⟩ := tangent_spec (by omega : index ≤ (slopesOf values).length)
  obtain ⟨arriving, arrives, _⟩ := tangent_spec (by omega : index + 1 ≤ (slopesOf values).length)
  refine ⟨segmentOf index values[index] values[index + 1] leaving arriving, ?_⟩
  unfold Chart.segment
  rw [List.getElem?_eq_getElem (Nat.lt_of_succ_lt within), List.getElem?_eq_getElem within, leaves,
    arrives]
  rfl

/-- What a segment is made of. -/
theorem segment_eq_some {values slopes : List ℚ} {index : Nat} {segment : Segment}
    (drawn : Chart.segment values slopes index = some segment) :
    ∃ start stop leaving arriving, values[index]? = some start ∧
      values[index + 1]? = some stop ∧ tangent slopes index = some leaving ∧
      tangent slopes (index + 1) = some arriving ∧
      segment = segmentOf index start stop leaving arriving := by
  simp only [Chart.segment, Option.bind_eq_bind, Option.bind_eq_some_iff, Option.pure_def,
    Option.some.injEq] at drawn
  obtain ⟨start, first, stop, second, leaving, leaves, arriving, arrives, rfl⟩ := drawn
  exact ⟨start, stop, leaving, arriving, first, second, leaves, arrives, rfl⟩

theorem joins_of_segment {values : List ℚ} {index : Nat} {segment : Segment}
    (within : index < (slopesOf values).length)
    (drawn : Chart.segment values (slopesOf values) index = some segment) :
    Joins values index segment := by
  obtain ⟨start, stop, leaving, arriving, first, second, leaves, arrives, rfl⟩ :=
    segment_eq_some drawn
  have slope := slopesOf_eq_some first second
  obtain ⟨_, left, leavingInside⟩ := tangent_spec within.le
  obtain ⟨_, arrived, arrivingInside⟩ := tangent_spec (Nat.succ_le_of_lt within)
  rw [leaves] at left
  rw [arrives] at arrived
  cases left
  cases arrived
  have behind : slopeBefore (slopesOf values) (index + 1) = some (some (stop - start)) := by
    rw [slopeBefore, slope]
    rfl
  exact
    { start := by rw [first]; rfl
      stop := by rw [second]; rfl
      leavingSlot := rfl
      arrivingSlot := rfl
      leaving := Bezier.add_mem_uIcc (leavingInside _ (.inr slope))
      arriving := Bezier.sub_mem_uIcc (arrivingInside _ (.inl behind)) }

/-! ## Curves -/

/-- A curve through the values: one segment between any two consecutive ones, which meets its
neighbours with their tangents, does not turn back and stays in the range of the values. -/
structure NeverOvershoots (values : List ℚ) (segments : List Segment) : Prop where
  length : segments.length = values.length - 1
  joins : ∀ index segment, segments[index]? = some segment → Joins values index segment
  meets : ∀ index segment next, segments[index]? = some segment →
    segments[index + 1]? = some next →
      segment.stop = next.start ∧ segment.stop - segment.arriving = next.leaving - next.start
  slot : ∀ segment ∈ segments, ∀ t, (segment.curve t).1 = segment.start.1 + t
  rising : ∀ segment ∈ segments, segment.start.2 ≤ segment.stop.2 →
    MonotoneOn (fun t => (segment.curve t).2) (Set.Icc 0 1)
  falling : ∀ segment ∈ segments, segment.stop.2 ≤ segment.start.2 →
    AntitoneOn (fun t => (segment.curve t).2) (Set.Icc 0 1)
  range : ∀ low high, (∀ value ∈ values, value ∈ Set.Icc low high) →
    ∀ segment ∈ segments, ∀ t ∈ Set.Icc (0 : ℚ) 1, (segment.curve t).2 ∈ Set.Icc low high

theorem exists_monotoneSegments (values : List ℚ) :
    ∃ segments, monotoneSegments values = some segments := by
  have whole : ∀ index ∈ List.range (slopesOf values).length,
      Chart.segment values (slopesOf values) index ≠ none := by
    intro index member
    have within := List.mem_range.mp member
    rw [length_slopesOf] at within
    obtain ⟨segment, drawn⟩ := exists_segment (Nat.add_lt_of_lt_sub within)
    rw [drawn]
    exact Option.some_ne_none _
  obtain ⟨segments, mapped⟩ := exists_map_some whole
  exact ⟨segments, mapM_eq_some_iff.mpr mapped⟩

/-- Each segment stands at the slot of its first sample. -/
theorem segment_of_getElem {values : List ℚ} {segments : List Segment} {index : Nat}
    {segment : Segment} (drawn : monotoneSegments values = some segments)
    (found : segments[index]? = some segment) :
    index < (slopesOf values).length ∧
      Chart.segment values (slopesOf values) index = some segment := by
  obtain ⟨slot, present, made⟩ := item_of_mapM drawn found
  obtain ⟨within, same⟩ := List.getElem?_eq_some_iff.mp present
  rw [List.getElem_range] at same
  subst same
  rw [List.length_range] at within
  exact ⟨within, made⟩

theorem meets_next {values slopes : List ℚ} {index : Nat} {segment next : Segment}
    (drawn : Chart.segment values slopes index = some segment)
    (drawnNext : Chart.segment values slopes (index + 1) = some next) :
    segment.stop = next.start ∧ segment.stop - segment.arriving = next.leaving - next.start := by
  obtain ⟨start, stop, leaving, arriving, _, second, _, arrives, rfl⟩ := segment_eq_some drawn
  obtain ⟨_, last, _, later, first, _, leaves, _, rfl⟩ := segment_eq_some drawnNext
  rw [second] at first
  rw [arrives] at leaves
  cases first
  cases leaves
  refine ⟨?_, ?_⟩
  · simp only [segmentOf, Nat.cast_add, Nat.cast_one]
  · ext
    · simp only [segmentOf, Prod.fst_sub, Nat.cast_add, Nat.cast_one]
      ring
    · simp only [segmentOf, Prod.snd_sub]
      ring

theorem mem_of_joins {values : List ℚ} {index : Nat} {segment : Segment}
    (joins : Joins values index segment) :
    segment.start.2 ∈ values ∧ segment.stop.2 ∈ values := by
  obtain ⟨before, first, start⟩ := Option.map_eq_some_iff.mp joins.start
  obtain ⟨after, second, stop⟩ := Option.map_eq_some_iff.mp joins.stop
  rw [← start, ← stop]
  exact ⟨List.mem_of_getElem? first, List.mem_of_getElem? second⟩

/-- The slots of a segment are run through at an even pace. -/
theorem slot_of_joins {values : List ℚ} {index : Nat} {segment : Segment}
    (joins : Joins values index segment) (t : ℚ) :
    (segment.curve t).1 = segment.start.1 + t := by
  obtain ⟨before, _, start⟩ := Option.map_eq_some_iff.mp joins.start
  obtain ⟨after, _, stop⟩ := Option.map_eq_some_iff.mp joins.stop
  rw [Segment.curve, joins.leavingSlot, joins.arrivingSlot, ← start, ← stop]
  exact Bezier.cubic_even (index : ℚ) t

theorem neverOvershoots_of_drawn {values : List ℚ} {segments : List Segment}
    (drawn : monotoneSegments values = some segments) : NeverOvershoots values segments := by
  have joins (index : Nat) (segment : Segment) (found : segments[index]? = some segment) :
      Joins values index segment := by
    obtain ⟨within, made⟩ := segment_of_getElem drawn found
    exact joins_of_segment within made
  have joinsAny (segment : Segment) (member : segment ∈ segments) :
      ∃ index, Joins values index segment := by
    obtain ⟨index, found⟩ := List.mem_iff_getElem?.mp member
    exact ⟨index, joins index segment found⟩
  constructor
  case length =>
    rw [length_of_mapM drawn, List.length_range, length_slopesOf]
  case joins => exact joins
  case meets =>
    intro index segment next found foundNext
    exact meets_next (segment_of_getElem drawn found).2 (segment_of_getElem drawn foundNext).2
  case slot =>
    intro segment member t
    obtain ⟨_, joined⟩ := joinsAny segment member
    exact slot_of_joins joined t
  case rising =>
    intro segment member rises
    obtain ⟨_, joined⟩ := joinsAny segment member
    exact Bezier.monotoneOn_cubic joined.leaving joined.arriving rises
  case falling =>
    intro segment member falls
    obtain ⟨_, joined⟩ := joinsAny segment member
    exact Bezier.antitoneOn_cubic joined.leaving joined.arriving falls
  case range =>
    intro low high inside segment member t time
    obtain ⟨_, joined⟩ := joinsAny segment member
    obtain ⟨first, second⟩ := mem_of_joins joined
    have between := Bezier.cubic_mem_uIcc joined.leaving joined.arriving time
    exact Set.uIcc_subset_Icc (inside _ first) (inside _ second) between

/-- The curve through any values is drawn, and it never overshoots. -/
theorem monotoneSegments_neverOvershoots (values : List ℚ) :
    ∃ segments, monotoneSegments values = some segments ∧ NeverOvershoots values segments := by
  obtain ⟨segments, drawn⟩ := exists_monotoneSegments values
  exact ⟨segments, drawn, neverOvershoots_of_drawn drawn⟩

/-! ## The chart -/

theorem length_series {samples : List (Speed ℚ)} (fits : samples.length ≤ history) (scale : ℚ)
    (pick : Speed ℚ → ℚ) : (series samples scale pick).length = history := by
  rw [series, List.length_append, List.length_replicate, List.length_map]
  exact Nat.sub_add_cancel fits

theorem series_inside {samples : List (Speed ℚ)} {scale : ℚ} {pick : Speed ℚ → ℚ} {value : ℚ}
    (member : value ∈ series samples scale pick) : value ∈ Set.Icc (0 : ℚ) 1 := by
  rcases List.mem_append.mp member with padded | sampled
  · rw [List.eq_of_mem_replicate padded]
    exact ⟨le_rfl, zero_le_one⟩
  · obtain ⟨sample, _, rfl⟩ := List.mem_map.mp sampled
    exact ⟨le_max_left _ _, max_le zero_le_one (min_le_right _ _)⟩

/-- A curve of the chart: none, or one through all slots that stays inside the chart. -/
structure Charted (segments : List Segment) : Prop where
  slots : segments = [] ∨ segments.length = history - 1
  inside : ∀ segment ∈ segments, ∀ t ∈ Set.Icc (0 : ℚ) 1,
    (segment.curve t).2 ∈ Set.Icc (0 : ℚ) 1

theorem charted_series {samples : List (Speed ℚ)} (fits : samples.length ≤ history) (scale : ℚ)
    (pick : Speed ℚ → ℚ) :
    ∃ segments, monotoneSegments (series samples scale pick) = some segments ∧
      Charted segments := by
  obtain ⟨segments, drawn⟩ := exists_monotoneSegments (series samples scale pick)
  have smooth := neverOvershoots_of_drawn drawn
  refine ⟨segments, drawn, .inr ?_, smooth.range 0 1 fun value => series_inside⟩
  rw [smooth.length, length_series fits]

/-- Both curves of the chart are drawn, and they stay inside it. -/
theorem chartCurves_charted (snapshot : TrafficSnapshot) :
    ∃ down up, chartCurves snapshot = some (down, up) ∧ Charted down ∧ Charted up := by
  have fits : (snapshot.samples.drop (snapshot.samples.length - history)).length ≤ history := by
    rw [List.length_drop]
    omega
  by_cases few : (snapshot.samples.drop (snapshot.samples.length - history)).length < 2
  · refine ⟨[], [], if_pos few, ?_, ?_⟩
    all_goals exact ⟨.inl rfl, fun segment member => absurd member List.not_mem_nil⟩
  · obtain ⟨down, downDrawn, downCharted⟩ := charted_series fits
      (max (max snapshot.peakDown snapshot.peakUp) scaleFloor) Speed.down
    obtain ⟨up, upDrawn, upCharted⟩ := charted_series fits
      (max (max snapshot.peakDown snapshot.peakUp) scaleFloor) Speed.up
    refine ⟨down, up, (if_neg few).trans ?_, downCharted, upCharted⟩
    rw [downDrawn, upDrawn]
    rfl

end Juicity.Gui.Chart
