import Mathlib.Data.List.Nodup
import Mathlib.Logic.Function.Iterate
import Mathlib.Order.Lattice

/-! Tables of rows with a key: updates and deletions by key, and selections of the rows
that come first in some order. -/

set_option autoImplicit false

namespace Wqm1.Library.Table

variable {Row Key Rank : Type} [DecidableEq Key]

/-- `UPDATE … WHERE key = ?`, run once for each of `keys`. -/
def updateMany (key : Row → Key) (change : Row → Row) (keys : List Key) (rows : List Row) : List Row :=
  keys.foldl (fun rows changed => rows.map fun row => if key row = changed then change row else row) rows

/-- `DELETE … WHERE key IN (…)`. -/
def deleteMany (key : Row → Key) (keys : List Key) (rows : List Row) : List Row :=
  rows.filter fun row => key row ∉ keys

/-- What `ORDER BY rank ASC LIMIT limit` may select: rows with one rank come in any order. -/
structure Least [LE Rank] (rank : Row → Rank) (rows : List Row) (limit : Nat) (chosen : List Row) : Prop where
  subset : ∀ row ∈ chosen, row ∈ rows
  nodup : chosen.Nodup
  count : chosen.length = min limit rows.length
  sorted : chosen.Pairwise fun earlier later => rank earlier ≤ rank later
  least : ∀ taken ∈ chosen, ∀ row ∈ rows, row ∉ chosen → rank taken ≤ rank row

instance [DecidableEq Row] [LE Rank] [DecidableLE Rank] (rank : Row → Rank) (rows : List Row)
    (limit : Nat)
    (chosen : List Row) : Decidable (Least rank rows limit chosen) :=
  decidable_of_iff
    ((∀ row ∈ chosen, row ∈ rows) ∧ chosen.Nodup ∧ chosen.length = min limit rows.length ∧
      (chosen.Pairwise fun earlier later => rank earlier ≤ rank later) ∧
      ∀ taken ∈ chosen, ∀ row ∈ rows, row ∉ chosen → rank taken ≤ rank row)
    ⟨fun ⟨subset, nodup, count, sorted, least⟩ => ⟨subset, nodup, count, sorted, least⟩,
      fun ⟨subset, nodup, count, sorted, least⟩ => ⟨subset, nodup, count, sorted, least⟩⟩

/-- There are always rows to select. -/
theorem exists_least [LinearOrder Rank] (rank : Row → Rank) {rows : List Row}
    (distinct : rows.Nodup) (limit : Nat) :
    ∃ chosen, Least rank rows limit chosen := by
  let before (earlier later : Row) : Bool := rank earlier ≤ rank later
  have permuted : (rows.mergeSort before).Perm rows := List.mergeSort_perm rows before
  have ordered :
      (rows.mergeSort before).Pairwise fun earlier later => rank earlier ≤ rank later := by
    refine (List.pairwise_mergeSort ?_ ?_ rows).imp of_decide_eq_true
    · intro first second third earlier later
      exact decide_eq_true (le_trans (of_decide_eq_true earlier) (of_decide_eq_true later))
    · intro first second
      rw [Bool.or_eq_true, decide_eq_true_eq, decide_eq_true_eq]
      exact le_total _ _
  refine ⟨(rows.mergeSort before).take limit, ?_, ?_, ?_, ordered.take, ?_⟩
  · exact fun row taken => permuted.mem_iff.mp (List.mem_of_mem_take taken)
  · exact (List.take_sublist ..).nodup (permuted.nodup_iff.mpr distinct)
  · rw [List.length_take, permuted.length_eq]
  · intro taken chosen row present left
    have split := ordered
    rw [← List.take_append_drop limit (rows.mergeSort before), List.pairwise_append] at split
    have rest : row ∈ (rows.mergeSort before).drop limit := by
      have sorted := permuted.mem_iff.mpr present
      rw [← List.take_append_drop limit (rows.mergeSort before)] at sorted
      exact (List.mem_append.mp sorted).resolve_left left
    exact split.2.2 taken chosen row rest

variable {key : Row → Key} {change : Row → Row} {keys : List Key} {rows : List Row}

/-- An update changes each row by itself, and a change that keeps the key is made as often
as the key is listed. -/
theorem updateMany_eq (keeps : ∀ row, key (change row) = key row) (keys : List Key)
    (rows : List Row) :
    updateMany key change keys rows = rows.map fun row => change^[keys.count (key row)] row := by
  induction keys generalizing rows with
  | nil => exact (List.map_id rows).symm
  | cons changed rest ih =>
    have step : updateMany key change (changed :: rest) rows =
        updateMany key change rest (rows.map fun row => if key row = changed then change row else row) := rfl
    rw [step, ih, List.map_map]
    apply List.map_congr_left
    intro row _
    rw [Function.comp_apply, List.count_cons]
    by_cases same : key row = changed
    · rw [if_pos same, keeps, beq_iff_eq.mpr same.symm, if_pos rfl, Function.iterate_succ_apply]
    · rw [if_neg same, beq_false_of_ne (Ne.symm same), if_neg Bool.false_ne_true, Nat.add_zero]

theorem updateMany_keys (keeps : ∀ row, key (change row) = key row) (keys : List Key)
    (rows : List Row) :
    (updateMany key change keys rows).map key = rows.map key := by
  have iterate (times : Nat) (row : Row) : key (change^[times] row) = key row := by
    induction times with
    | zero => rfl
    | succ times ih => rw [Function.iterate_succ_apply', keeps, ih]
  rw [updateMany_eq keeps, List.map_map]
  exact List.map_congr_left fun row _ => iterate _ row

theorem mem_deleteMany {row : Row} :
    row ∈ deleteMany key keys rows ↔ row ∈ rows ∧ key row ∉ keys := by
  rw [deleteMany, List.mem_filter, decide_eq_true_eq]

/-- Rows with keys of their own are deleted by key just as they are listed. -/
theorem deleteMany_eq [DecidableEq Row] (distinct : (rows.map key).Nodup) {deleted : List Row}
    (subset : ∀ row ∈ deleted, row ∈ rows) :
    deleteMany key (deleted.map key) rows = rows.filter fun row => row ∉ deleted := by
  apply List.filter_congr
  intro row present
  have same : key row ∈ deleted.map key ↔ row ∈ deleted := by
    constructor
    · intro listed
      obtain ⟨other, gone, equal⟩ := List.mem_map.mp listed
      exact List.inj_on_of_nodup_map distinct (subset other gone) present equal ▸ gone
    · exact List.mem_map_of_mem
  exact decide_eq_decide.mpr (not_congr same)

/-- As many rows go as are listed. -/
theorem length_filter_notMem [DecidableEq Row] (distinct : rows.Nodup) {deleted : List Row}
    (nodup : deleted.Nodup)
    (subset : ∀ row ∈ deleted, row ∈ rows) :
    (rows.filter fun row => row ∉ deleted).length + deleted.length = rows.length := by
  have gone : (rows.filter fun row => row ∈ deleted).length = deleted.length := by
    apply List.Perm.length_eq
    rw [List.perm_ext_iff_of_nodup (distinct.filter _) nodup]
    intro row
    rw [List.mem_filter, decide_eq_true_eq]
    exact ⟨fun both => both.2, fun listed => ⟨subset row listed, listed⟩⟩
  have split := List.length_eq_length_filter_add (l := rows) fun row => decide (row ∈ deleted)
  rw [gone] at split
  have same : (rows.filter fun row => !decide (row ∈ deleted)) = rows.filter fun row => row ∉ deleted := by
    apply List.filter_congr
    intro row _
    exact (decide_not).symm
  rw [same] at split
  omega

end Wqm1.Library.Table
