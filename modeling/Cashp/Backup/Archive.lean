import Mathlib.Data.List.AList
import Mathlib.Data.List.Sort

/-!
The archive of a backup (`manifest.go`, `verify.go`): a map from names to contents, with an index in
the manifest. A name is meant to be the digest of the content.
-/

namespace Cashp.Backup

abbrev Bytes := List UInt8

abbrev Blocks := AList fun _ : String => Bytes

structure Block where
  hash : String
  size : Int
deriving DecidableEq

inductive ArchiveError
  | content (name : String)
  | count (listed held : Nat)
  | missing (hash : String)
  | resized (hash : String) (held : Nat) (listed : Int)
deriving DecidableEq

def blockIndex (blocks : Blocks) : List Block :=
  (blocks.keys.insertionSort (· ≤ ·)).map fun name => ⟨name, ((blocks.lookup name).getD []).length⟩

def listingError (blocks : Blocks) (block : Block) : Option ArchiveError :=
  match blocks.lookup block.hash with
  | none => some (.missing block.hash)
  | some data =>
    if (data.length : Int) ≠ block.size then some (.resized block.hash data.length block.size)
    else none

def verifyBlocks (hashBytes : Bytes → String) (index : List Block) (blocks : Blocks) :
    Except ArchiveError Unit :=
  match blocks.entries.find? fun entry => hashBytes entry.2 ≠ entry.1 with
  | some entry => .error (.content entry.1)
  | none =>
    if index.length ≠ blocks.keys.length then .error (.count index.length blocks.keys.length)
    else
      match index.findSome? (listingError blocks) with
      | some error => .error error
      | none => .ok ()

variable {hashBytes : Bytes → String} {index : List Block} {blocks : Blocks}

theorem verifyBlocks_ok (accepted : verifyBlocks hashBytes index blocks = .ok ()) :
    index.length = blocks.keys.length ∧ ∀ block ∈ index, ∃ data,
      blocks.lookup block.hash = some data ∧ (data.length : Int) = block.size := by
  unfold verifyBlocks at accepted
  split at accepted
  · cases accepted
  split_ifs at accepted with sizes
  split at accepted
  · cases accepted
  rename_i listed
  refine ⟨not_not.mp sizes, fun block member => ?_⟩
  have fine := List.findSome?_eq_none_iff.mp listed block member
  unfold listingError at fine
  grind

theorem mem_keys_iff {hash : String} :
    hash ∈ blocks.keys ↔ ∃ data, blocks.lookup hash = some data := by
  rw [← Option.isSome_iff_exists, AList.lookup_isSome]
  exact AList.mem_keys.symm

/-- An accepted index lists exactly the blocks that are there just if it has no repetitions. -/
theorem index_lists_blocks (accepted : verifyBlocks hashBytes index blocks = .ok ()) :
    (∀ hash size, ⟨hash, size⟩ ∈ index ↔
        ∃ data, blocks.lookup hash = some data ∧ (data.length : Int) = size) ↔
      (index.map Block.hash).Nodup := by
  obtain ⟨sizes, listed⟩ := verifyBlocks_ok accepted
  have known : index.map Block.hash ⊆ blocks.keys := by
    intro name member
    obtain ⟨block, present, rfl⟩ := List.mem_map.mp member
    exact mem_keys_iff.mpr ((listed block present).imp fun _ held => held.1)
  refine ⟨fun exact => ?_, fun distinct hash size =>
    ⟨fun member => listed _ member, fun ⟨data, there, fits⟩ => ?_⟩⟩
  · -- The names of the blocks are all in the index, which is no longer than they are.
    have named : blocks.keys ⊆ index.map Block.hash := by
      intro hash member
      obtain ⟨data, there⟩ := mem_keys_iff.mp member
      exact List.mem_map.mpr ⟨⟨hash, data.length⟩, (exact hash _).mpr ⟨data, there, rfl⟩, rfl⟩
    have whole := (List.subperm_of_subset blocks.keys_nodup named).perm_of_length_le
      (by rw [List.length_map, sizes])
    exact whole.nodup blocks.keys_nodup
  have whole := (List.subperm_of_subset distinct known).perm_of_length_le
    (by rw [List.length_map, sizes])
  obtain ⟨block, present, rfl⟩ :=
    List.mem_map.mp (whole.mem_iff.mpr (mem_keys_iff.mpr ⟨data, there⟩))
  obtain ⟨held, same, right⟩ := listed block present
  obtain rfl := Option.some.inj (same.symm.trans there)
  obtain rfl := right.symm.trans fits
  exact present

def twoBlocks : Blocks := ⟨[⟨"a", [1]⟩, ⟨"b", [2]⟩], by simp [List.NodupKeys]⟩

def firstByte (data : Bytes) : String := if data = [1] then "a" else "b"

theorem index_lists_twoBlocks : ⟨"b", 1⟩ ∈ blockIndex twoBlocks ↔
    ∃ data, twoBlocks.lookup "b" = some data ∧ (data.length : Int) = 1 :=
  (@index_lists_blocks firstByte _ _ (by decide +kernel)).mpr (by decide +kernel) "b" 1

theorem repeated_block_hides_another :
    let index : List Block := [⟨"a", 1⟩, ⟨"a", 1⟩]
    verifyBlocks firstByte index twoBlocks = .ok () ∧ twoBlocks.lookup "b" = some [2] ∧
      ∀ size, ⟨"b", size⟩ ∉ index := by
  refine ⟨by decide +kernel, by decide +kernel, fun size => by simp⟩

theorem verifyBlocks_blockIndex :
    verifyBlocks hashBytes (blockIndex blocks) blocks = .ok () ↔
      ∀ entry ∈ blocks.entries, hashBytes entry.2 = entry.1 := by
  have size : (blockIndex blocks).length = blocks.keys.length := by
    rw [blockIndex, List.length_map, List.length_insertionSort]
  have listed : (blockIndex blocks).findSome? (listingError blocks) = none := by
    refine List.findSome?_eq_none_iff.mpr fun block member => ?_
    obtain ⟨name, sorted, rfl⟩ := List.mem_map.mp member
    have held := AList.lookup_isSome.mpr (AList.mem_keys.mpr ((List.mem_insertionSort _).mp sorted))
    obtain ⟨data, found⟩ := Option.isSome_iff_exists.mp held
    simp [listingError, found]
  unfold verifyBlocks
  grind

end Cashp.Backup
