import Cashp.Kit.Path
import Cashp.Kit.Text
import Mathlib.Data.List.Infix

/-!
Text that comes from outside: a path below a base directory (`security/input.go`) and the target of
the redirect after a login (`auth/middleware.go`).
-/

namespace Cashp.Guard

open Kit Kit.Path

inductive PathError
  | emptyBase
  | nullByte
  | notRelative
  | escapesBase
deriving DecidableEq

def safeJoin (base untrusted : List Char) : Except PathError (List Char) :=
  if base = [] then .error .emptyBase
  else if '\x00' ∈ untrusted ∨ '\x00' ∈ base then .error .nullByte
  else if isAbs untrusted ∨ ['/'] <+: untrusted ∨ ['\\'] <+: untrusted then .error .notRelative
  else
    let cleanBase := clean base
    let joined := clean (join [cleanBase, untrusted])
    if joined ≠ cleanBase ∧ ¬ cleanBase ++ ['/'] <+: joined then .error .escapesBase
    else .ok joined

theorem safeJoin_eq_ok {base untrusted joined : List Char} :
    safeJoin base untrusted = .ok joined ↔ base ≠ [] ∧ '\x00' ∉ untrusted ∧ '\x00' ∉ base ∧
      ¬ ['/'] <+: untrusted ∧ ¬ ['\\'] <+: untrusted ∧
      joined = clean (join [clean base, untrusted]) ∧
      (joined = clean base ∨ clean base ++ ['/'] <+: joined) := by
  have rooted (absolute : isAbs untrusted = true) : ['/'] <+: untrusted := by
    cases untrusted with
    | nil => cases absolute
    | cons first rest =>
      obtain rfl := Option.some.inj (beq_iff_eq.mp absolute)
      exact ⟨rest, rfl⟩
  unfold safeJoin
  grind

variable {base untrusted : List Char}

/-- The path stays below its base exactly if it is relative and, cleaned after the base, does not
leave it. -/
theorem safeJoin_below (absolute : isAbs base = true) (below : clean base ≠ ['/']) :
    ((∃ joined, safeJoin base untrusted = .ok joined) ↔
      '\x00' ∉ untrusted ∧ '\x00' ∉ base ∧ ¬ ['/'] <+: untrusted ∧ ¬ ['\\'] <+: untrusted ∧
        normal true (pieces base) <+: normal true (pieces (base ++ '/' :: untrusted))) ∧
    ∀ joined, safeJoin base untrusted = .ok joined → joined = clean base ∨
      ∃ rest, rest ≠ [] ∧ (∀ component ∈ rest, Proper component) ∧
        joined = clean base ++ '/' :: ['/'].intercalate rest := by
  have proper := normal_proper base
  have after := normal_proper (base ++ '/' :: untrusted)
  have whole := clean_abs absolute
  have solid : normal true (pieces base) ≠ [] := fun none => below (by rw [whole, none]; rfl)
  have some : base ≠ [] := by
    rintro rfl
    cases absolute
  have joins : clean (join [clean base, untrusted]) =
      render true (normal true (pieces (base ++ '/' :: untrusted))) := by
    rw [whole, join_below proper, clean_render (normal_proper _), normal_append,
      normal_render proper, ← normal_append]
  have inside := components_under proper after solid
  rw [← whole, ← joins] at inside
  have outside
      (kept : normal true (pieces base) <+: normal true (pieces (base ++ '/' :: untrusted))) :
      clean (join [clean base, untrusted]) = clean base ∨
      ∃ rest, rest ≠ [] ∧ (∀ component ∈ rest, Proper component) ∧
        clean (join [clean base, untrusted]) = clean base ++ '/' :: ['/'].intercalate rest := by
    obtain ⟨rest, same⟩ := kept
    rw [joins, ← same, whole]
    by_cases more : rest = []
    · exact .inl (by rw [more, List.append_nil])
    refine .inr ⟨rest, more, fun component member => after component ?_,
      render_append solid more⟩
    rw [← same]
    exact List.mem_append_right _ member
  refine ⟨⟨?_, ?_⟩, ?_⟩
  · rintro ⟨joined, ok⟩
    obtain ⟨_, clear, sound, plain, straight, rfl, kept⟩ := safeJoin_eq_ok.mp ok
    exact ⟨clear, sound, plain, straight, inside kept⟩
  · rintro ⟨clear, sound, plain, straight, kept⟩
    refine ⟨_, safeJoin_eq_ok.mpr ⟨some, clear, sound, plain, straight, rfl, ?_⟩⟩
    rcases outside kept with same | ⟨rest, _, _, longer⟩
    · exact .inl same
    · exact .inr ⟨['/'].intercalate rest, by rw [longer, List.append_assoc]; rfl⟩
  · intro joined ok
    obtain ⟨_, _, _, _, _, rfl, kept⟩ := safeJoin_eq_ok.mp ok
    exact outside (inside kept)

theorem joined_below_data : ∃ joined, safeJoin "/srv/data".toList "a/./../b".toList = .ok joined :=
  (safeJoin_below (by decide +kernel) (by decide +kernel)).1.mpr (by decide +kernel)

/-- A path that climbs out of the base and comes back by the name of the base is accepted. -/
theorem climb_comes_back : normal false (pieces "../data".toList) = [dotdot, "data".toList] ∧
    safeJoin "/srv/data".toList "../data".toList = .ok "/srv/data".toList := by
  decide +kernel

end Cashp.Guard
