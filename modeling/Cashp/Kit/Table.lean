import Cashp.Kit.TableCore
import Mathlib.Algebra.Order.BigOperators.Group.List
import Mathlib.Data.Int.ConditionallyCompleteOrder

/-!
What inserts and updates do to a table, and which facts about a row that was read survive every
later write.
-/

namespace Kit

namespace Table

variable {Row : Type} {columns : List (Row → String)} {table : Table Row columns}
variable {column : Row → String} {wanted matching : Row → Bool} {weight : Row → Int}
variable {before : Row → Row → Prop} {row : Row} {grown : Table Row columns} {assign : Row → Row}

/-- A unique column tells rows apart. -/
theorem eq_of_column (listed : column ∈ columns) {first second : Row} (here : first ∈ table.rows)
    (there : second ∈ table.rows) (same : column first = column second) : first = second :=
  List.inj_on_of_nodup_map (table.unique column listed) here there same

theorem collides_eq_false : table.collides row = false ↔
    ∀ column ∈ columns, ∀ other ∈ table.rows, column other ≠ column row := by
  simp only [collides, List.any_eq_false, List.any_eq_true, not_exists, not_and, beq_iff_eq]

theorem insert_rows
    (stored : table.insert row = some grown) : grown.rows = table.rows ++ [row] := by
  grind [Table.insert]

theorem insert_apart {other : Row}
    (stored : table.insert row = some grown) (unique : column ∈ columns)
    (listed : other ∈ table.rows) : column other ≠ column row := by
  grind [Table.insert]

/-- An insert with new values in the unique columns succeeds. -/
theorem insert_fresh (fresh : ∀ column ∈ columns, ∀ other ∈ table.rows, column other ≠ column row) :
    ∃ grown, table.insert row = some grown ∧ grown.rows = table.rows ++ [row] := by
  refine ⟨⟨table.rows ++ [row], unique_append table row (collides_eq_false.mpr fresh)⟩, ?_, rfl⟩
  simp [insert, collides_eq_false.mpr fresh]

theorem sumWhere_insert (stored : table.insert row = some grown) : grown.sumWhere wanted weight =
      table.sumWhere wanted weight + if wanted row then weight row else 0 := by
  simp only [sumWhere, select, insert_rows stored, List.filter_append, List.map_append,
    List.sum_append, List.filter_singleton]
  by_cases hit : wanted row = true <;> simp [hit]

section

variable {matching : Row → Bool} {assign : Row → Row}
  {keeps : ∀ column ∈ columns, ∀ row, column (assign row) = column row}
variable {wanted : Row → Bool} {weight : Row → Int}

theorem mem_update : row ∈ (table.update matching assign keeps).rows ↔
    ∃ old ∈ table.rows, assignWhere matching assign old = row := by
  simp [update]

theorem assignWhere_of (hit : matching row = true) :
    assignWhere matching assign row = assign row := by
  simp [assignWhere, hit]

theorem assignWhere_not (missed : matching row = false) :
    assignWhere matching assign row = row := by
  simp [assignWhere, missed]

theorem mem_of_assigned {rows : List Row} (member : row ∈ rows.map (assignWhere matching assign)) :
    row ∈ rows ∨ ∃ old ∈ rows, matching old = true ∧ row = assign old := by
  grind [Table.assignWhere]

theorem mem_delete : row ∈ (table.delete matching).rows ↔
    row ∈ table.rows ∧ matching row = false := by
  rw [delete, List.mem_filter, Bool.not_eq_true']

theorem affected_eq_zero : table.affected matching = 0 ↔
    ∀ row ∈ table.rows, matching row = false := by
  simp [affected, List.countP_eq_zero]

theorem rows_update_of_unaffected (missed : table.affected matching = 0) :
    (table.update matching assign keeps).rows = table.rows := by
  have none := affected_eq_zero.mp missed
  simp only [update]
  conv_rhs => rw [← List.map_id table.rows]
  exact List.map_congr_left fun row member => assignWhere_not (none row member)

theorem map_update {Text : Type} {text : Row → Text}
    (keeps : ∀ column ∈ columns, ∀ row, column (assign row) = column row)
    (kept : ∀ row, text (assign row) = text row) :
    (table.update matching assign keeps).rows.map text = table.rows.map text := by
  simp only [update, List.map_map]
  refine List.map_congr_left fun row _ => ?_
  simp only [Function.comp, assignWhere]
  split
  · exact kept row
  · rfl

theorem filter_update
    (kept : ∀ row ∈ table.rows, matching row = true → wanted (assign row) = wanted row) :
    (table.update matching assign keeps).rows.filter wanted =
      (table.rows.filter wanted).map (assignWhere matching assign) := by
  simp only [update, List.filter_map]
  congr 1
  refine List.filter_congr fun row member => ?_
  simp only [Function.comp, assignWhere]
  split
  · rename_i hit
    exact kept row member hit
  · rfl

theorem select_update_other (kept : ∀ row, wanted (assign row) = wanted row)
    (other : ∀ row, matching row = true → wanted row = false) :
    (table.update matching assign keeps).select wanted = table.select wanted := by
  unfold select
  rw [filter_update fun row _ _ => kept row]
  conv_rhs => rw [← List.map_id (table.rows.filter wanted)]
  refine List.map_congr_left fun row member => assignWhere_not ?_
  by_contra hit
  simp [other row (by simpa using hit)] at member

theorem sumWhere_update (keeps : ∀ column ∈ columns, ∀ row, column (assign row) = column row)
    (kept : ∀ row, wanted (assign row) = wanted row)
    (same : ∀ row, weight (assign row) = weight row) :
    (table.update matching assign keeps).sumWhere wanted weight = table.sumWhere wanted weight := by
  simp only [sumWhere, select, filter_update fun row _ _ => kept row, List.map_map]
  congr 1
  refine List.map_congr_left fun row _ => ?_
  simp only [Function.comp, assignWhere]
  split
  · exact same row
  · rfl

theorem sumWhere_eq (wanted : Row → Bool) (weight : Row → Int) (table : Table Row columns) :
    table.sumWhere wanted weight =
      (table.rows.map fun row => if wanted row then weight row else 0).sum := by
  simp only [sumWhere, select]
  induction table.rows with
  | nil => rfl
  | cons row rest ih => by_cases hit : wanted row = true <;> simp [hit, ih]

theorem sumWhere_update_le (keeps : ∀ column ∈ columns, ∀ row, column (assign row) = column row)
    (positive : ∀ row ∈ table.rows, 0 ≤ weight row) :
    (table.update matching assign keeps).sumWhere wanted weight ≤
      table.sumWhere wanted weight + table.sumWhere matching fun row =>
        if wanted (assign row) then weight (assign row) else 0 := by
  simp only [sumWhere_eq, update, List.map_map]
  revert positive
  induction table.rows with
  | nil => simp
  | cons row rest ih =>
    grind [Table.assignWhere]

theorem sumWhere_update_ge (keeps : ∀ column ∈ columns, ∀ row, column (assign row) = column row)
    (kept : ∀ row, wanted (assign row) = wanted row)
    (grows : ∀ row, weight row ≤ weight (assign row)) :
    table.sumWhere wanted weight ≤ (table.update matching assign keeps).sumWhere wanted weight := by
  simp only [sumWhere_eq, update, List.map_map]
  refine List.sum_le_sum fun row _ => ?_
  grind [Table.assignWhere]

theorem selectOrdered_update {before : Row → Row → Prop} [DecidableRel before]
    (keeps : ∀ column ∈ columns, ∀ row, column (assign row) = column row)
    (kept : ∀ row ∈ table.rows, matching row = true → wanted (assign row) = wanted row)
    (monotone : ∀ first second, before (assignWhere matching assign first)
      (assignWhere matching assign second) ↔ before first second) :
    (table.update matching assign keeps).selectOrdered wanted before =
      (table.selectOrdered wanted before).map (assignWhere matching assign) := by
  simp only [selectOrdered, select, filter_update kept]
  refine (List.map_insertionSort before before _ _ fun first _ second _ => ?_).symm
  exact (monotone first second).symm

end

/-- A row that is found is in the table and matches. -/
theorem find_mem (found : table.find matching = some row) :
    row ∈ table.rows ∧ matching row = true :=
  ⟨List.mem_of_find?_eq_some found, List.find?_some found⟩

theorem find_none (missing : table.find matching = none) :
    ∀ row ∈ table.rows, matching row = false := by
  intro row member
  simpa using List.find?_eq_none.mp missing row member

theorem find_unique (listed : column ∈ columns) (member : row ∈ table.rows)
    (hit : matching row = true)
    (narrow : ∀ other, matching other = true → column other = column row) :
    table.find matching = some row := by
  cases found : table.find matching with
  | none =>
    have missed := find_none found row member
    simp [hit] at missed
  | some other =>
    have facts := find_mem found
    rw [eq_of_column listed facts.1 member (narrow other facts.2)]

theorem select_unique (listed : column ∈ columns) (member : row ∈ table.rows) :
    table.select (fun other => column other == column row) = [row] := by
  have distinct := table.unique column listed
  simp only [select]
  generalize table.rows = rows at member distinct
  induction rows with
  | nil => simp at member
  | cons first rest ih =>
    simp only [List.map_cons, List.nodup_cons] at distinct
    rcases List.mem_cons.mp member with rfl | later
    · simp_all
    · grind

theorem sumWhere_unique (listed : column ∈ columns) (member : row ∈ table.rows) :
    table.sumWhere (fun other => column other == column row) weight = weight row := by
  simp [sumWhere, select_unique listed member]

theorem sumWhere_of_map {text : Row → Row} {first second : Table Row columns}
    {wanted : Row → Bool} {weight : Row → Int} (same : second.rows.map text = first.rows.map text)
    (blind : ∀ row, wanted (text row) = wanted row)
    (steady : ∀ row, weight (text row) = weight row) :
    second.sumWhere wanted weight = first.sumWhere wanted weight := by
  have whole (table : Table Row columns) : table.sumWhere wanted weight =
      ((table.rows.map text).map fun row => if wanted row then weight row else 0).sum := by
    rw [sumWhere_eq, List.map_map]
    refine congrArg List.sum (List.map_congr_left fun row _ => ?_)
    simp only [Function.comp, blind, steady]
  rw [whole, whole, same]

theorem sumWhere_update_at (listed : column ∈ columns) (member : row ∈ table.rows)
    (hit : matching row = true)
    (narrow : ∀ other, matching other = true → column other = column row)
    (keeps : ∀ column ∈ columns, ∀ row, column (assign row) = column row)
    (kept : ∀ row, wanted (assign row) = wanted row) :
    (table.update matching assign keeps).sumWhere wanted weight = table.sumWhere wanted weight +
        if wanted row then weight (assign row) - weight row else 0 := by
  have change : table.sumWhere (fun other => column other == column row) (fun row =>
      if wanted row then weight (assign row) - weight row else 0) =
        if wanted row then weight (assign row) - weight row else 0 :=
    sumWhere_unique listed member
  rw [← change]
  simp only [sumWhere_eq, update, List.map_map]
  rw [← List.sum_map_add]
  refine congrArg List.sum (List.map_congr_left fun other there => ?_)
  simp only [Function.comp, assignWhere]
  by_cases matched : matching other = true
  · simp only [if_pos matched, beq_iff_eq, if_pos (narrow other matched), kept]
    split <;> omega
  have different : column other ≠ column row := by
    intro same
    rw [eq_of_column listed there member same] at matched
    exact matched hit
  simp only [if_neg matched, beq_iff_eq, if_neg different, Int.add_zero]

theorem selectOrdered_distinct (listed : column ∈ columns) [DecidableRel before] :
    ((table.selectOrdered wanted before).map column).Nodup := by
  have sorted := (List.perm_insertionSort before (table.select wanted)).map column
  rw [selectOrdered, sorted.nodup_iff]
  exact (List.filter_sublist.map column).nodup (table.unique column listed)

theorem mem_selectOrdered [DecidableRel before] :
    row ∈ table.selectOrdered wanted before ↔ row ∈ table.rows ∧ wanted row = true := by
  simp [selectOrdered, select, List.mem_insertionSort]

theorem sum_selectOrdered (wanted : Row → Bool) (before : Row → Row → Prop) [DecidableRel before]
    (weight : Row → Int) :
    ((table.selectOrdered wanted before).map weight).sum = table.sumWhere wanted weight :=
  ((List.perm_insertionSort before (table.select wanted)).map weight).sum_eq

theorem sum_selectOrdered_le [DecidableRel before] (positive : ∀ row ∈ table.rows, 0 ≤ weight row) :
    ((table.selectOrdered wanted before).map weight).sum ≤ (table.rows.map weight).sum := by
  rw [sum_selectOrdered]
  refine (List.filter_sublist.map weight).sum_le_sum fun value listed => ?_
  obtain ⟨row, member, rfl⟩ := List.mem_map.mp listed
  exact positive row member

section

variable {Key Tracked : Type} (key : Row → Key) (version : Row → Int) (tracked : Row → Tracked)

def Follows (seen row : Row) : Prop :=
  key row = key seen ∧ version seen ≤ version row ∧
    (version row = version seen → tracked row = tracked seen)

def Snapshot (table : Table Row columns) (seen : Row) : Prop :=
  ∃ row ∈ table.rows, Follows key version tracked seen row

variable {key version tracked}

theorem Follows.refl (row : Row) : Follows key version tracked row row :=
  ⟨rfl, Int.le_refl _, fun _ => rfl⟩

theorem Follows.trans {first second third : Row} (early : Follows key version tracked first second)
    (late : Follows key version tracked second third) :
    Follows key version tracked first third := by
  grind [Table.Follows]

theorem Snapshot.insert {seen : Row}
    (known : Snapshot key version tracked table seen) (stored : table.insert row = some grown) :
    Snapshot key version tracked grown seen := by
  grind [Table.Snapshot, Table.insert]

theorem Snapshot.update {seen : Row} {matching : Row → Bool}
    (known : Snapshot key version tracked table seen)
    (keeps : ∀ column ∈ columns, ∀ row, column (assign row) = column row)
    (forward : ∀ row, Follows key version tracked row (assign row)) :
    Snapshot key version tracked (table.update matching assign keeps) seen := by
  obtain ⟨current, member, follows⟩ := known
  refine ⟨assignWhere matching assign current, mem_update.mpr ⟨current, member, rfl⟩, ?_⟩
  grind [Table.Follows, Table.assignWhere]

end

end Table

end Kit
