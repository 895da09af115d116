import Cashp.Kit.Table

/-!
Tables whose rows are only replaced by their successors: a successor keeps the key of the row, and
is the row itself if it has its version.
-/

namespace Kit.Table

variable {Row : Type} {columns : List (Row → String)} {precedes : Row → Row → Prop}
  {before middle after table : Table Row columns} {seen row : Row}

def Evolve (precedes : Row → Row → Prop) (before after : Table Row columns) : Prop :=
  ∀ row ∈ before.rows, ∃ next ∈ after.rows, precedes row next

def Known (precedes : Row → Row → Prop) (seen : Row) (table : Table Row columns) : Prop :=
  ∃ row ∈ table.rows, precedes seen row

theorem evolve_refl (refl : ∀ row, precedes row row) : Evolve precedes table table :=
  fun row listed => ⟨row, listed, refl row⟩

theorem known_of_mem (refl : ∀ row, precedes row row) (listed : row ∈ table.rows) :
    Known precedes row table :=
  ⟨row, listed, refl row⟩

section

variable (chain : ∀ first second third, precedes first second → precedes second third →
  precedes first third)

include chain

/-- What is known of a row that was read stays true. -/
theorem Known.later (known : Known precedes seen before) (evolve : Evolve precedes before after) :
    Known precedes seen after := by
  grind [Known, Evolve]

/-- Steps that evolve make runs that evolve. -/
theorem Evolve.trans (early : Evolve precedes before middle) (late : Evolve precedes middle after) :
    Evolve precedes before after :=
  fun row listed => Known.later chain (early row listed) late

end

theorem evolve_insert (refl : ∀ row, precedes row row) (stored : table.insert row = some after) :
    Evolve precedes table after := by
  intro old listed
  refine ⟨old, ?_, refl old⟩
  rw [insert_rows stored]
  exact List.mem_append_left _ listed

theorem evolve_update {matching : Row → Bool} {assign : Row → Row}
    {keeps : ∀ column ∈ columns, ∀ row, column (assign row) = column row}
    (refl : ∀ row, precedes row row)
    (each : ∀ row ∈ table.rows, matching row = true → precedes row (assign row)) :
    Evolve precedes table (table.update matching assign keeps) := by
  intro row listed
  refine ⟨assignWhere matching assign row, mem_update.mpr ⟨row, listed, rfl⟩, ?_⟩
  grind [assignWhere]

theorem Known.unchanged {key : Row → String} {version : Row → Int} (unique : key ∈ columns)
    (named : ∀ row next, precedes row next → key next = key row)
    (pinned : ∀ row next, precedes row next → version next = version row → next = row)
    (known : Known precedes seen table) (listed : row ∈ table.rows) (same : key row = key seen)
    (current : version row = version seen) : row = seen := by
  obtain ⟨last, present, follows⟩ := known
  have only : last = row := eq_of_column unique present listed
    ((named seen last follows).trans same.symm)
  rw [only] at follows
  exact pinned seen row follows current

end Kit.Table
