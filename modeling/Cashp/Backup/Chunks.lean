import Cashp.Backup.Archive
import Mathlib.Data.List.GetD

/-!
Content-defined chunks (`chunk.go`). The rolling hash is the hash of the last bytes of the chunk, so
these alone say where a chunk ends.
-/

namespace Cashp.Backup

def chunkWindow : Nat := 48

def chunkMin : Nat := 2 <<< 10

def chunkMask : BitVec 64 := (1 <<< 13) - 1

def chunkMax : Nat := 64 <<< 10

def newBuzTables : Nat → BitVec 64 → List (BitVec 64) × List (BitVec 64)
  | 0, _ => ([], [])
  | count + 1, state =>
    let state := state + 0x9E3779B97F4A7C15
    let z := (state ^^^ (state >>> 30)) * 0xBF58476D1CE4E5B9
    let z := (z ^^^ (z >>> 27)) * 0x94D049BB133111EB
    let z := z ^^^ (z >>> 31)
    let (table, out) := newBuzTables count state
    (z :: table, z.rotateLeft (chunkWindow % 64) :: out)

def buzTable (byte : UInt8) : BitVec 64 :=
  (newBuzTables 256 0x9E3779B97F4A7C15).1.getD byte.toNat 0

def buzOut (byte : UInt8) : BitVec 64 :=
  (newBuzTables 256 0x9E3779B97F4A7C15).2.getD byte.toNat 0

def roll (since : Bytes) (h : BitVec 64) (byte : UInt8) : BitVec 64 :=
  let h := h.rotateLeft 1 ^^^ buzTable byte
  if chunkWindow ≤ since.length then h ^^^ buzOut (since.getD (since.length - chunkWindow) 0) else h

/-- The loop of `splitBlocks`, with the bytes since `start`. -/
def splitRest : Bytes → Bytes → BitVec 64 → List Bytes
  | [], since, _ => if since = [] then [] else [since]
  | byte :: data, since, h =>
    let h := roll since h byte
    let chunk := since ++ [byte]
    if chunk.length < chunkMin then splitRest data chunk h
    else if chunkMax ≤ chunk.length ∨ h &&& chunkMask = 0 then chunk :: splitRest data [] 0
    else splitRest data chunk h

def splitBlocks (data : Bytes) : List Bytes := splitRest data [] 0

def buzhash (bytes : Bytes) : BitVec 64 :=
  bytes.foldl (fun h byte => h.rotateLeft 1 ^^^ buzTable byte) 0

def window (chunk : Bytes) : Bytes := chunk.drop (chunk.length - chunkWindow)

def Ends (chunk : Bytes) : Prop :=
  chunkMin ≤ chunk.length ∧ (chunkMax ≤ chunk.length ∨ buzhash (window chunk) &&& chunkMask = 0)

instance (chunk : Bytes) : Decidable (Ends chunk) := inferInstanceAs (Decidable (_ ∧ _))

section

theorem newBuzTables_out (count : Nat) (state : BitVec 64) : (newBuzTables count state).2 =
    (newBuzTables count state).1.map fun z => z.rotateLeft chunkWindow := by
  induction count generalizing state with
  | zero => rfl
  | succ count ih => exact congrArg _ (ih _)

theorem buzOut_eq (byte : UInt8) : buzOut byte = (buzTable byte).rotateLeft chunkWindow := by
  rw [buzOut, buzTable, newBuzTables_out, List.getD_eq_getElem?_getD, List.getD_eq_getElem?_getD,
    List.getElem?_map]
  cases (newBuzTables 256 0x9E3779B97F4A7C15).1[byte.toNat]? <;> rfl

theorem rotateLeft_xor (first second : BitVec 64) (count : Nat) :
    (first ^^^ second).rotateLeft count = first.rotateLeft count ^^^ second.rotateLeft count := by
  ext place inside
  simp only [BitVec.getElem_rotateLeft, BitVec.getElem_xor]
  split <;> rfl

theorem rotateLeft_again (word : BitVec 64) {first second : Nat} (small : first + second < 64) :
    (word.rotateLeft first).rotateLeft second = word.rotateLeft (first + second) := by
  ext place inside
  simp only [BitVec.getElem_rotateLeft]
  grind

theorem foldl_xor (word start : BitVec 64) {bytes : Bytes} (short : bytes.length < 63) :
    bytes.foldl (fun h byte => h.rotateLeft 1 ^^^ buzTable byte) (start ^^^ word) =
      bytes.foldl (fun h byte => h.rotateLeft 1 ^^^ buzTable byte) start ^^^
        word.rotateLeft bytes.length := by
  induction bytes generalizing word start with
  | nil =>
    ext place inside
    simp [BitVec.getElem_rotateLeft]
  | cons byte rest ih =>
    rw [List.length_cons] at short ⊢
    rw [List.foldl_cons, List.foldl_cons, rotateLeft_xor, BitVec.xor_assoc,
      BitVec.xor_comm _ (buzTable byte), ← BitVec.xor_assoc, ih _ _ (by omega),
      rotateLeft_again _ (by omega), Nat.add_comm]

theorem roll_window (since : Bytes) (byte : UInt8) :
    roll since (buzhash (window since)) byte = buzhash (window (since ++ [byte])) := by
  unfold roll window
  rw [List.length_append, List.length_singleton]
  by_cases full : chunkWindow ≤ since.length
  · have inside : since.length - chunkWindow < since.length := by
      simp only [chunkWindow] at full ⊢
      omega
    have after : since.length + 1 - chunkWindow = since.length - chunkWindow + 1 := by omega
    have last : (since.drop (since.length - chunkWindow + 1)).length = 47 := by
      simp only [chunkWindow] at full ⊢
      rw [List.length_drop]
      omega
    have first : (0 : BitVec 64).rotateLeft 1 = 0 := by decide
    have cancel (one two three : BitVec 64) : one ^^^ two ^^^ three ^^^ two = one ^^^ three := by
      grind
    rw [if_pos full, List.getD_eq_getElem _ _ inside, List.drop_eq_getElem_cons inside, after,
      List.drop_append_of_le_length (by omega), buzhash, List.foldl_cons, first,
      foldl_xor _ _ (by omega), last, rotateLeft_xor, rotateLeft_again _ (by decide), buzOut_eq,
      buzhash, List.foldl_append]
    exact cancel _ _ _
  · have short : since.length - chunkWindow = 0 := by omega
    have none : since.length + 1 - chunkWindow = 0 := by omega
    rw [if_neg full, short, none, List.drop_zero, List.drop_zero, buzhash, buzhash,
      List.foldl_append]
    rfl

end

section

variable {chunks first second rest others : List Bytes} {chunk since data : Bytes}

def Chunked (chunks : List Bytes) : Prop :=
  ∀ before chunk after, chunks = before ++ chunk :: after → chunk ≠ [] ∧ (after ≠ [] → Ends chunk) ∧
    ∀ head rest, chunk = head ++ rest → rest ≠ [] → ¬ Ends head

theorem chunked_cons (nonempty : chunk ≠ []) (ended : rest ≠ [] → Ends chunk)
    (heads : ∀ head rest, chunk = head ++ rest → rest ≠ [] → ¬ Ends head) (later : Chunked rest) :
    Chunked (chunk :: rest) := by
  intro before piece after same
  cases before with
  | nil =>
    cases same
    exact ⟨nonempty, ended, heads⟩
  | cons =>
    cases same
    exact later _ _ _ rfl

theorem splitRest_cons (byte : UInt8) (since data : Bytes) :
    splitRest (byte :: data) since (buzhash (window since)) =
      if Ends (since ++ [byte]) then (since ++ [byte]) :: splitRest data [] 0
      else splitRest data (since ++ [byte]) (buzhash (window (since ++ [byte]))) := by
  rw [splitRest, roll_window]
  unfold Ends
  grind

theorem quiet_nil : ∀ head, head <+: [] → ¬ Ends head := by
  intro head nothing ended
  rw [List.prefix_nil.mp nothing] at ended
  exact absurd ended.1 (by decide)

theorem splitRest_chunked (quiet : ∀ head, head <+: since → ¬ Ends head) :
    (splitRest data since (buzhash (window since))).flatten = since ++ data ∧
      Chunked (splitRest data since (buzhash (window since))) := by
  have empty : Chunked [] := fun before chunk after same => by simp at same
  induction data generalizing since with
  | nil =>
    unfold splitRest
    split
    · rename_i none
      exact ⟨by simp [none], empty⟩
    · rename_i some
      refine ⟨by simp, chunked_cons some (absurd rfl) (fun head rest same _ => ?_) empty⟩
      exact quiet head ⟨rest, same.symm⟩
  | cons byte data ih =>
    rw [splitRest_cons]
    have heads : ∀ head rest, since ++ [byte] = head ++ rest → rest ≠ [] → ¬ Ends head := by
      intro head rest same more
      rcases List.prefix_concat_iff.mp ⟨rest, same.symm⟩ with whole | earlier
      · simp [whole] at same
        exact absurd same more
      · exact quiet head earlier
    split
    · rename_i ended
      obtain ⟨whole, later⟩ := ih quiet_nil
      refine ⟨?_, chunked_cons (by simp) (fun _ => ended) heads later⟩
      have start : splitRest data [] 0 = splitRest data [] (buzhash (window [])) := rfl
      rw [List.flatten_cons, start, whole]
      simp
    · rename_i open_
      have next := ih fun head start => (List.prefix_concat_iff.mp start).elim
        (fun whole => whole ▸ open_) (quiet head)
      rw [List.append_assoc] at next
      exact next

theorem not_longer {more : Bytes} (one : Chunked (chunk :: rest))
    (two : Chunked ((chunk ++ more) :: others))
    (same : rest.flatten = more ++ others.flatten) : more = [] := by
  by_contra nonempty
  refine (two [] _ others rfl).2.2 chunk more rfl nonempty ((one [] chunk rest rfl).2.1 ?_)
  rintro rfl
  simp [nonempty] at same

theorem Chunked.tail (first : List Bytes) (chunked : Chunked (first ++ second)) : Chunked second :=
  fun before chunk after same =>
    chunked (first ++ before) chunk after (by rw [same, List.append_assoc])

theorem Chunked.unique (one : Chunked first) (two : Chunked second)
    (same : first.flatten = second.flatten) : first = second := by
  have vanish {rest : List Bytes} (chunked : Chunked rest) (none : rest.flatten = []) :
      rest = [] := by
    cases rest with
    | nil => rfl
    | cons chunk rest => exact absurd (List.append_eq_nil_iff.mp none).1 (chunked [] _ _ rfl).1
  induction first generalizing second with
  | nil => exact (vanish two same.symm).symm
  | cons chunk rest ih =>
    cases second with
    | nil => exact vanish one same
    | cons other others =>
      rw [List.flatten_cons, List.flatten_cons] at same
      rcases List.append_eq_append_iff.mp same with ⟨more, rfl, left⟩ | ⟨more, rfl, left⟩
      · obtain rfl := not_longer one two left
        rw [List.append_nil, ih (.tail [_] one) (.tail [_] two) left]
      · obtain rfl := not_longer two one left
        rw [List.append_nil, ih (.tail [_] one) (.tail [_] two) left.symm]

theorem splitBlocks_chunked (data : Bytes) :
    (splitBlocks data).flatten = data ∧ Chunked (splitBlocks data) :=
  splitRest_chunked quiet_nil

/-- The chunks make up the data and have the right sizes. Where a chunk ends early is up to its last
bytes, and what follows a boundary is split as if nothing came before. -/
theorem splitBlocks_contentDefined (data : Bytes) : (splitBlocks data).flatten = data ∧
    (∀ before chunk after, splitBlocks data = before ++ chunk :: after →
      chunk.length ≤ chunkMax ∧ (after ≠ [] → chunkMin ≤ chunk.length) ∧
      ∀ head rest, chunk = head ++ rest → chunkMin ≤ head.length → head.length < chunkMax →
        (rest ≠ [] ∨ after ≠ []) → (rest = [] ↔ buzhash (window head) &&& chunkMask = 0)) ∧
    ∀ a s before after, data = a ++ s → splitBlocks data = before ++ after → before.flatten = a →
      after = splitBlocks s := by
  obtain ⟨whole, chunked⟩ := splitBlocks_chunked data
  refine ⟨whole, fun before chunk after same => ?_, ?_⟩
  · obtain ⟨_, ended, heads⟩ := chunked before chunk after same
    refine ⟨?_, fun more => (ended more).1, fun head rest parts large small inner => ?_⟩
    · by_contra long
      refine heads (chunk.take chunkMax) (chunk.drop chunkMax) (List.take_append_drop _ _).symm
        (by simpa using long) ⟨?_, .inl ?_⟩ <;> simp [chunkMin, chunkMax] at long ⊢ <;> omega
    · constructor
      · rintro rfl
        rw [List.append_nil] at parts
        subst parts
        exact (ended (inner.resolve_left (absurd rfl))).2.resolve_left (Nat.not_le.mpr small)
      · intro hit
        by_contra more
        exact heads head rest parts more ⟨large, .inr hit⟩
  · rintro a s before after rfl same rfl
    rw [same] at whole chunked
    obtain ⟨later, rest⟩ := splitBlocks_chunked s
    refine (Chunked.tail before chunked).unique rest ?_
    rw [List.flatten_append] at whole
    exact (List.append_cancel_left whole).trans later.symm

end

end Cashp.Backup
