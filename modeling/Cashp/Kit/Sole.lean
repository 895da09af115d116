import Cashp.Kit.Run
import Mathlib.Data.List.Nodup

/-!
Lists in which at most one place has a property.
-/

namespace Kit

universe u

variable {Item : Type u} {holds wider : Item → Prop} {items more : List Item}

def Sole (holds : Item → Prop) (items : List Item) : Prop :=
  ∀ (first second : Nat) (one other : Item), items[first]? = some one →
    items[second]? = some other → holds one → holds other → first = second

theorem Sole.mono (sole : Sole wider items) (narrow : ∀ item, holds item → wider item) :
    Sole holds items :=
  fun first second one other here there held also =>
    sole first second one other here there (narrow one held) (narrow other also)

theorem sole_of_none (none : ∀ item ∈ items, ¬ holds item) : Sole holds items :=
  fun _ _ one _ here _ held _ => absurd held (none one (List.mem_of_getElem? here))

/-- A place may get the property if it has it already or nobody else does. -/
theorem Sole.set {index : Nat} {item : Item} (sole : Sole holds items)
    (fair : holds item → (∃ old, items[index]? = some old ∧ holds old) ∨
      ∀ other ∈ items, ¬ holds other) : Sole holds (items.set index item) := by
  have clash : ∀ (place : Nat) (other : Item), items[place]? = some other → holds item →
      holds other → place = index := by
    intro place other there held also
    rcases fair held with ⟨old, was, had⟩ | none
    · exact sole place index other old there was also had
    · exact absurd also (none other (List.mem_of_getElem? there))
  -- two places with the property were either both there before, or one of them is the new one
  intro first second one other here there held also
  rcases place_of_set here with ⟨rfl, rfl⟩ | ⟨_, early⟩
  · rcases place_of_set there with ⟨rfl, _⟩ | ⟨_, late⟩
    · rfl
    · exact (clash second other late held also).symm
  rcases place_of_set there with ⟨rfl, rfl⟩ | ⟨_, late⟩
  · exact clash first one early also held
  · exact sole first second one other early late held also

/-- Lists may be joined if one of them has no such place. -/
theorem Sole.append (left : Sole holds items) (right : Sole holds more)
    (apart : (∀ item ∈ items, ¬ holds item) ∨ ∀ item ∈ more, ¬ holds item) :
    Sole holds (items ++ more) := by
  have never : ∀ one other, one ∈ items → other ∈ more → holds one → ¬ holds other := by
    intro one other listed added held also
    rcases apart with none | none
    · exact none one listed held
    · exact none other added also
  intro first second one other here there held also
  rcases place_of_append here with early | ⟨past, late⟩
  · rcases place_of_append there with near | ⟨_, far⟩
    · exact left first second one other early near held also
    · exact absurd also (never one other (List.mem_of_getElem? early)
        (List.mem_of_getElem? far) held)
  · rcases place_of_append there with near | ⟨beyond, far⟩
    · exact absurd held (never other one (List.mem_of_getElem? near)
        (List.mem_of_getElem? late) also)
    · have same := right _ _ one other late far held also
      omega

theorem sole_of_keys {Key : Type u} {keys : List Key} {wanted : Key} {make : Key → Item}
    (distinct : keys.Nodup) (tells : ∀ key, holds (make key) → key = wanted) :
    Sole holds (keys.map make) := by
  intro first second one other here there held also
  simp only [List.getElem?_map, Option.map_eq_some_iff] at here there
  obtain ⟨early, listed, rfl⟩ := here
  obtain ⟨late, present, rfl⟩ := there
  obtain ⟨_, atFirst⟩ := List.getElem?_eq_some_iff.mp listed
  obtain ⟨_, atSecond⟩ := List.getElem?_eq_some_iff.mp present
  exact distinct.getElem_inj_iff.mp
    (atFirst.trans ((tells early held).trans ((tells late also).symm.trans atSecond.symm)))

theorem Sole.map {change : Item → Item} (sole : Sole holds items)
    (kept : ∀ item ∈ items, holds (change item) → holds item) : Sole holds (items.map change) := by
  intro first second one other here there held also
  simp only [List.getElem?_map, Option.map_eq_some_iff] at here there
  obtain ⟨old, was, rfl⟩ := here
  obtain ⟨same, present, rfl⟩ := there
  exact sole first second old same was present (kept old (List.mem_of_getElem? was) held)
    (kept same (List.mem_of_getElem? present) also)

end Kit
