import Mathlib.Data.List.Sort
import Mathlib.Algebra.Ring.Int.Defs

/-!
Tables with unique text columns: an insert that would repeat a unique value is turned away and an
update may not touch a unique column, so a table that breaks a constraint cannot be built.
-/

namespace Kit

/-- Rows with no value twice in a unique column. -/
structure Table (Row : Type) (columns : List (Row → String)) where
  rows : List Row
  unique : ∀ column ∈ columns, (rows.map column).Nodup

namespace Table

variable {Row : Type} {columns : List (Row → String)}

def empty : Table Row columns := ⟨[], by simp⟩

def collides (table : Table Row columns) (row : Row) : Bool :=
  columns.any fun column => table.rows.any fun other => column other == column row

theorem unique_append (table : Table Row columns) (row : Row) (free : table.collides row = false) :
    ∀ column ∈ columns, ((table.rows ++ [row]).map column).Nodup := by
  intro column member
  have distinct := table.unique column member
  grind [Table.collides]

def insert (table : Table Row columns) (row : Row) : Option (Table Row columns) :=
  if free : table.collides row = false then
    some ⟨table.rows ++ [row], unique_append table row free⟩
  else none

def assignWhere (matching : Row → Bool) (assign : Row → Row) (row : Row) : Row :=
  if matching row then assign row else row

def update (table : Table Row columns) (matching : Row → Bool) (assign : Row → Row)
    (keeps : ∀ column ∈ columns, ∀ row, column (assign row) = column row) : Table Row columns where
  rows := table.rows.map (assignWhere matching assign)
  unique := by
    intro column member
    have same : column ∘ assignWhere matching assign = column := by
      funext row
      simp only [Function.comp, assignWhere]
      split
      · exact keeps column member row
      · rfl
    rw [List.map_map, same]
    exact table.unique column member

def delete (table : Table Row columns) (matching : Row → Bool) : Table Row columns where
  rows := table.rows.filter fun row => !matching row
  unique := fun column member =>
    (table.unique column member).sublist (List.filter_sublist.map column)

def affected (table : Table Row columns) (matching : Row → Bool) : Nat :=
  table.rows.countP matching

def find (table : Table Row columns) (matching : Row → Bool) : Option Row :=
  table.rows.find? matching

def select (table : Table Row columns) (matching : Row → Bool) : List Row :=
  table.rows.filter matching

def selectOrdered (table : Table Row columns) (matching : Row → Bool)
    (before : Row → Row → Prop) [DecidableRel before] : List Row :=
  (table.select matching).insertionSort before

def sumWhere (table : Table Row columns) (matching : Row → Bool) (weight : Row → Int) : Int :=
  ((table.select matching).map weight).sum

end Table

/-- A source of names that are not used yet. -/
structure Supply where
  next : List String → String
  fresh : ∀ used, next used ∉ used
  nonempty : ∀ used, next used ≠ ""

namespace Supply

def longest (used : List String) : Nat :=
  (used.map String.length).foldr max 0

theorem length_le_longest (used : List String) (name : String) (member : name ∈ used) :
    name.length ≤ longest used := by
  induction used with
  | nil => simp at member
  | cons first rest ih =>
    grind [Supply.longest]

def outgrow : Supply where
  next used := String.ofList (List.replicate (longest used + 1) 'f')
  fresh := by
    intro used member
    have bound := length_le_longest used _ member
    simp only [String.length_ofList, List.length_replicate] at bound
    omega
  nonempty := by
    intro used same
    have sizes := congrArg String.length same
    simp at sizes

end Supply

end Kit
