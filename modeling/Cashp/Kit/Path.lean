import Mathlib.Data.List.Basic

/-!
Slash-separated paths, cleaned and joined lexically: repeated slashes and dots go, a double dot
takes the component before it along.
-/

namespace Kit.Path

abbrev Component := List Char

def dot : Component := ['.']

def dotdot : Component := ['.', '.']

def pieces (path : List Char) : List Component := path.splitOn '/'

def isAbs (path : List Char) : Bool := path.head? == some '/'

def push (rooted : Bool) (stack : List Component) (piece : Component) : List Component :=
  if piece = [] ∨ piece = dot then stack
  else if piece = dotdot then
    match stack with
    | [] => if rooted then [] else [dotdot]
    | top :: rest => if top = dotdot then dotdot :: top :: rest else rest
  else piece :: stack

def normal (rooted : Bool) (pieces : List Component) : List Component :=
  (pieces.foldl (push rooted) []).reverse

def render (rooted : Bool) (components : List Component) : List Char :=
  if rooted then '/' :: ['/'].intercalate components
  else if components = [] then dot
  else ['/'].intercalate components

def clean (path : List Char) : List Char :=
  render (isAbs path) (normal (isAbs path) (pieces path))

def join (elements : List (List Char)) : List Char :=
  match elements.filter (· ≠ []) with
  | [] => []
  | first :: rest => clean (['/'].intercalate (first :: rest))

def base (path : List Char) : List Char :=
  if path = [] then dot
  else
    let trimmed := (path.reverse.dropWhile (· == '/')).reverse
    if trimmed = [] then ['/'] else (trimmed.reverse.takeWhile (· != '/')).reverse

structure Proper (component : Component) : Prop where
  some : component ≠ []
  single : '/' ∉ component
  named : component ≠ dot
  down : component ≠ dotdot

variable {path tail : List Char} {components : List Component} {component : Component}

theorem pieces_append (path tail : List Char) :
    pieces (path ++ '/' :: tail) = pieces path ++ pieces tail :=
  List.splitOnP_append_cons path tail rfl

theorem pieces_of_single (single : '/' ∉ path) : pieces path = [path] := by
  have whole := List.splitOn_intercalate '/' (List.forall_mem_singleton.mpr single)
    (List.cons_ne_nil path [])
  simpa [pieces] using whole

theorem pieces_single (path : List Char) : ∀ piece ∈ pieces path, '/' ∉ piece := by
  induction size : path.length using Nat.strongRecOn generalizing path with
  | ind length ih =>
    by_cases slash : '/' ∈ path
    · obtain ⟨front, back, rfl, clear⟩ := List.eq_append_cons_of_mem slash
      rw [pieces_append, pieces_of_single clear]
      grind
    · rw [pieces_of_single slash]
      intro piece member
      exact List.mem_singleton.mp member ▸ slash

theorem push_proper (proper : Proper component) (rooted : Bool) (stack : List Component) :
    push rooted stack component = component :: stack := by
  unfold push
  rw [if_neg, if_neg proper.down]
  rintro (none | dot)
  · exact proper.some none
  · exact proper.named dot

theorem push_nothing (rooted : Bool) (stack : List Component) : push rooted stack [] = stack :=
  if_pos (.inl rfl)

theorem push_keeps_proper {piece : Component} {stack : List Component} (single : '/' ∉ piece)
    (proper : ∀ component ∈ stack, Proper component) :
    ∀ component ∈ push true stack piece, Proper component := by
  unfold push
  split
  · exact proper
  rename_i solid
  split
  · grind
  · rename_i down
    rw [not_or] at solid
    exact List.forall_mem_cons.mpr ⟨⟨solid.1, single, solid.2, down⟩, proper⟩

/-- Nothing in a normal path goes up. -/
theorem normal_proper (path : List Char) : ∀ component ∈ normal true (pieces path),
    Proper component := by
  have folded : ∀ (rest stack : List Component), (∀ piece ∈ rest, '/' ∉ piece) →
      (∀ component ∈ stack, Proper component) →
      ∀ component ∈ rest.foldl (push true) stack, Proper component := by
    intro rest
    induction rest with
    | nil => exact fun stack _ proper => proper
    | cons piece rest ih =>
      intro stack single proper
      rw [List.forall_mem_cons] at single
      exact ih _ single.2 (push_keeps_proper single.1 proper)
  intro component member
  rw [normal, List.mem_reverse] at member
  exact folded _ [] (pieces_single path) (by simp) component member

theorem foldl_push_proper (rooted : Bool) (proper : ∀ component ∈ components, Proper component)
    (stack : List Component) :
    components.foldl (push rooted) stack = components.reverse ++ stack := by
  induction components generalizing stack with
  | nil => rfl
  | cons first rest ih =>
    rw [List.forall_mem_cons] at proper
    rw [List.foldl_cons, push_proper proper.1, ih proper.2]
    simp

theorem pieces_render (proper : ∀ component ∈ components, Proper component) :
    pieces (render true components) = if components = [] then [[], []] else [] :: components := by
  have front := pieces_append [] (['/'].intercalate components)
  rw [pieces_of_single List.not_mem_nil] at front
  have slashed : render true components = [] ++ '/' :: ['/'].intercalate components := rfl
  rw [slashed, front]
  by_cases root : components = []
  · subst root
    rfl
  rw [if_neg root, pieces, List.splitOn_intercalate '/'
    (fun component member => (proper component member).single) root]
  rfl

theorem foldl_pieces_render (proper : ∀ component ∈ components, Proper component) :
    (pieces (render true components)).foldl (push true) [] = components.reverse := by
  rw [pieces_render proper]
  split
  · rename_i root
    subst root
    rfl
  · rw [List.foldl_cons, push_nothing, foldl_push_proper true proper, List.append_nil]

/-- An absolute path is cleaned to its normal components. -/
theorem clean_abs (absolute : isAbs path = true) :
    clean path = render true (normal true (pieces path)) := by
  rw [clean, absolute]

theorem normal_render (proper : ∀ component ∈ components, Proper component) :
    normal true (pieces (render true components)) = components := by
  rw [normal, foldl_pieces_render proper, List.reverse_reverse]

theorem clean_render (proper : ∀ component ∈ components, Proper component) :
    clean (render true components) = render true components := by
  rw [clean_abs rfl, normal_render proper]

theorem normal_append (path tail : List Char) : normal true (pieces (path ++ '/' :: tail)) =
    ((pieces tail).foldl (push true) (normal true (pieces path)).reverse).reverse := by
  rw [pieces_append, normal, List.foldl_append, normal, List.reverse_reverse]

theorem join_below (proper : ∀ component ∈ components, Proper component) (tail : List Char) :
    join [render true components, tail] =
      render true (normal true (pieces (render true components ++ '/' :: tail))) := by
  by_cases none : tail = []
  · subst none
    have joined : join [render true components, []] = clean (render true components) := by
      simp [join, render, List.intercalate]
    rw [joined, clean_render proper, normal_append, normal_render proper]
    simp [pieces, push_nothing, List.splitOn]
  · have joined : join [render true components, tail] =
        clean (render true components ++ '/' :: tail) := by
      simp [join, render, none, List.intercalate]
    rw [joined, clean_abs rfl]

theorem join_render (proper : ∀ component ∈ components, Proper component)
    (below : Proper component) :
    join [render true components, component] = render true (components ++ [component]) := by
  rw [join_below proper, normal_append, normal_render proper, pieces_of_single below.single,
    List.foldl_cons, List.foldl_nil, push_proper below, List.reverse_cons, List.reverse_reverse]

theorem render_append (solid : components ≠ []) {rest : List Component} (more : rest ≠ []) :
    render true (components ++ rest) = render true components ++ '/' :: ['/'].intercalate rest := by
  obtain ⟨next, others, rfl⟩ := List.exists_cons_of_ne_nil more
  induction components with
  | nil => exact absurd rfl solid
  | cons first later ih =>
    cases later with
    | nil => simp [render]
    | cons second last =>
      simp_all [render]

/-- A path that begins with the text of another and a slash lies below it. -/
theorem components_under {under : List Component}
    (proper : ∀ component ∈ components, Proper component)
    (proper' : ∀ component ∈ under, Proper component) (solid : components ≠ [])
    (inside : render true under = render true components ∨
      render true components ++ ['/'] <+: render true under) : components <+: under := by
  rcases inside with same | ⟨tail, longer⟩
  · have cut := congrArg (fun path => ((pieces path).foldl (push true) []).reverse) same
    simp only [foldl_pieces_render proper, foldl_pieces_render proper', List.reverse_reverse] at cut
    exact ⟨[], by rw [cut, List.append_nil]⟩
  have cut := congrArg pieces longer
  rw [List.append_assoc, List.singleton_append, pieces_append, pieces_render proper,
    pieces_render proper', if_neg solid] at cut
  split at cut
  · simp_all [render]
  · exact ⟨pieces tail, (List.cons.inj cut).2⟩

end Kit.Path
