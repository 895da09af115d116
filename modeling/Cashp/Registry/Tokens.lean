import Cashp.Registry.ModelsCore
import Mathlib.Data.List.Infix

/-!
The format of a token (`token.go`). One prefix may start with another; the alphabet of the bodies
keeps them apart.
-/

namespace Cashp.Registry

def tokenAlphabet : List Char :=
  "abcdefghijklmnopqrstuvwxyzABCDEFGHIJKLMNOPQRSTUVWXYZ0123456789".toList

def randomAlphanumeric (draws : List (Fin 62)) : String :=
  String.ofList (draws.map fun index : Fin 62 => tokenAlphabet.getD index.val 'a')

structure TokenOf (plaintext lead body : String) : Prop where
  known : lead ∈ tokenPrefixes
  whole : plaintext = lead ++ body
  size : body.length = tokenRandomLen
  plain : ∀ char ∈ body.toList, isAlphanumericChar char = true

variable {plaintext lead body : String} {char : Char} {chars : List Char}

theorem isAlphanumericChar_ascii (plain : isAlphanumericChar char = true) : char.utf8Size = 1 := by
  rw [Char.utf8Size_eq_one_iff]
  simp only [isAlphanumericChar, Bool.or_eq_true, Bool.and_eq_true, decide_eq_true_eq,
    Char.le_def, UInt32.le_iff_toNat_le] at plain ⊢
  grind

theorem byteSize_of_plain (plain : ∀ char ∈ chars, isAlphanumericChar char = true) :
    (String.ofList chars).utf8ByteSize = chars.length := by
  induction chars with
  | nil => rfl
  | cons first rest ih =>
    have front : String.ofList (first :: rest) = String.singleton first ++ String.ofList rest := by
      simp [String.ofList_cons]
    rw [List.forall_mem_cons] at plain
    rw [front, String.utf8ByteSize_append, String.utf8ByteSize_singleton,
      isAlphanumericChar_ascii plain.1, ih plain.2, List.length_cons, Nat.add_comm]

theorem find_prefix (known : lead ∈ tokenPrefixes)
    (plain : ∀ char ∈ body.toList, isAlphanumericChar char = true) :
    (tokenPrefixes.find? fun other => other.toList.isPrefixOf (lead ++ body).toList) =
      some lead := by
  have apart : ¬ ['a', 'g', 't', '_'] <+: body.toList := fun starts =>
    absurd (plain '_' (starts.mem (by decide))) (by decide)
  rw [← List.isPrefixOf_iff_prefix, Bool.not_eq_true] at apart
  simp only [tokenPrefixes, List.mem_cons, List.not_mem_nil, or_false] at known
  rcases known with rfl | rfl | rfl | rfl | rfl | rfl <;>
    simp [tokenPrefixes, List.isPrefixOf, apart]

theorem parseToken_of (token : TokenOf plaintext lead body) :
    parseToken plaintext = some (lead, body) := by
  obtain ⟨known, rfl, size, plain⟩ := token
  have rest : String.ofList ((lead ++ body).toList.drop lead.length) = body := by
    rw [String.toList_append, ← String.length_toList, List.drop_left, String.ofList_toList]
  have bytes := byteSize_of_plain plain
  rw [String.ofList_toList, String.length_toList, size] at bytes
  have some : body.isEmpty = false := by
    rw [String.isEmpty_eq_utf8ByteSize_beq_zero, bytes]
    rfl
  rw [parseToken, find_prefix known plain]
  dsimp only
  rw [rest, if_neg]
  simp [bytes, isAlphanumeric, some, List.all_eq_true.mpr plain]

theorem token_of_parse (parsed : parseToken plaintext = some (lead, body)) :
    TokenOf plaintext lead body := by
  rw [parseToken] at parsed
  split at parsed
  · cases parsed
  rename_i found matching
  obtain ⟨fits, same⟩ := Option.ite_none_left_eq_some.mp parsed
  obtain ⟨rfl, rfl⟩ := Prod.mk.inj (Option.some.inj same)
  rw [not_or, not_not, Bool.not_eq_false, isAlphanumeric, Bool.and_eq_true] at fits
  have plain := List.all_eq_true.mp fits.2.1
  rw [String.toList_ofList] at plain
  refine ⟨List.mem_of_find?_eq_some matching, ?_, ?_, by rwa [String.toList_ofList]⟩
  · have starts := List.find?_some matching
    rw [List.isPrefixOf_iff_prefix] at starts
    rw [← String.toList_inj, String.toList_append, String.toList_ofList, ← String.length_toList]
    exact (List.prefix_iff_eq_append.mp starts).symm
  · rw [← fits.1, byteSize_of_plain plain, String.length_ofList]

theorem randomAlphanumeric_plain (draws : List (Fin 62)) :
    ∀ char ∈ (randomAlphanumeric draws).toList, isAlphanumericChar char = true := by
  intro char member
  rw [randomAlphanumeric, String.toList_ofList] at member
  have all : ∀ index : Fin 62, isAlphanumericChar (tokenAlphabet.getD index.val 'a') = true := by
    decide +kernel
  obtain ⟨index, _, rfl⟩ := List.mem_map.mp member
  exact all index

/-- A token is read exactly as one of the prefixes with its body, in only one way, and reading
undoes what `GenerateToken` puts together. -/
theorem parseToken_reads (setup : Setup) :
    (∀ plaintext lead body,
      parseToken plaintext = some (lead, body) ↔ TokenOf plaintext lead body) ∧
    (∀ plaintext lead body lead' body', TokenOf plaintext lead body →
      TokenOf plaintext lead' body' → lead = lead' ∧ body = body') ∧
    ∀ lead ∈ tokenPrefixes, ∀ draws : List (Fin 62), draws.length = tokenRandomLen →
      ∃ token hash,
        setup.generateToken lead (some (randomAlphanumeric draws)) = some (token, hash) ∧
        parseToken token = some (lead, randomAlphanumeric draws) := by
  refine ⟨fun _ _ _ => ⟨token_of_parse, parseToken_of⟩, fun _ _ _ _ _ one other => ?_,
    fun lead known draws size => ?_⟩
  · have same := (parseToken_of one).symm.trans (parseToken_of other)
    exact Prod.mk.inj (Option.some.inj same)
  · refine ⟨_, _, if_pos known, parseToken_of ⟨known, rfl, ?_, randomAlphanumeric_plain draws⟩⟩
    rw [randomAlphanumeric, String.length_ofList, List.length_map, size]

end Cashp.Registry
