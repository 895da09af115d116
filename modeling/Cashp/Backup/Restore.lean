import Cashp.Backup.Chunks

/-!
A backup and its restore (`create.go`, `verify.go`). A file is split into blocks that are stored
once each under their digests, and put together again from the names of its blocks.
-/

namespace Cashp.Backup

structure Entry where
  path : String
  size : Int
  checksum : String
  blocks : List String

inductive RestoreError
  | missing (path name : String)
  | resized (path : String) (extracted : Nat) (size : Int)
  | checksum (path : String)

variable (hashBytes : Bytes → String)

def addBlock (blocks : Blocks) (block : Bytes) : Blocks :=
  if hashBytes block ∈ blocks then blocks else blocks.insert (hashBytes block) block

def addFile (path : String) (data : Bytes) (blocks : Blocks) : Entry × Blocks :=
  (⟨path, data.length, hashBytes data, (splitBlocks data).map hashBytes⟩,
    (splitBlocks data).foldl (addBlock hashBytes) blocks)

def addFiles : List (String × Bytes) → Blocks → List Entry × Blocks
  | [], blocks => ([], blocks)
  | (path, data) :: rest, blocks =>
    let (entry, blocks) := addFile hashBytes path data blocks
    let (entries, blocks) := addFiles rest blocks
    (entry :: entries, blocks)

def extract (path : String) (blocks : Blocks) : List String → Except RestoreError Bytes
  | [] => .ok []
  | name :: rest =>
    match blocks.lookup name with
    | none => .error (.missing path name)
    | some data => (extract path blocks rest).map (data ++ ·)

def reassemble (blocks : Blocks) : List Entry → Blocks → Except RestoreError Blocks
  | [], files => .ok files
  | entry :: rest, files => do
    let content ← extract entry.path blocks entry.blocks
    if (content.length : Int) ≠ entry.size then
      .error (.resized entry.path content.length entry.size)
    else if hashBytes content ≠ entry.checksum then .error (.checksum entry.path)
    else reassemble blocks rest (files.insert entry.path content)

def Apart (chunks : List Bytes) : Prop :=
  ∀ first ∈ chunks, ∀ second ∈ chunks, hashBytes first = hashBytes second → first = second

def Sound (chunks : List Bytes) (blocks : Blocks) : Prop :=
  ∀ entry ∈ blocks.entries, hashBytes entry.2 = entry.1 ∧ entry.2 ∈ chunks

variable {hashBytes} {blocks : Blocks} {chunks part : List Bytes}

theorem sound_addBlocks (genuine : part ⊆ chunks) (sound : Sound hashBytes chunks blocks) :
    Sound hashBytes chunks (part.foldl (addBlock hashBytes) blocks) ∧
      ∀ name, name ∈ part.map hashBytes ∨ name ∈ blocks →
        name ∈ part.foldl (addBlock hashBytes) blocks := by
  induction part generalizing blocks with
  | nil => exact ⟨sound, fun name listed => listed.resolve_left List.not_mem_nil⟩
  | cons chunk rest ih =>
    obtain ⟨first, later⟩ := List.cons_subset.mp genuine
    have step : Sound hashBytes chunks (addBlock hashBytes blocks chunk) ∧
        ∀ name, name = hashBytes chunk ∨ name ∈ blocks →
          name ∈ addBlock hashBytes blocks chunk := by
      unfold addBlock
      split
      · rename_i known
        exact ⟨sound, fun name either => either.elim (· ▸ known) id⟩
      · refine ⟨fun entry listed => ?_, fun name => (AList.mem_insert _).mpr⟩
        rcases List.mem_cons.mp listed with rfl | old
        · exact ⟨rfl, first⟩
        · exact sound entry ((List.kerase_sublist _ _).subset old)
    grind

theorem extract_chunks (apart : Apart hashBytes chunks) (sound : Sound hashBytes chunks blocks)
    (path : String) (genuine : part ⊆ chunks) (held : ∀ name ∈ part.map hashBytes, name ∈ blocks) :
    extract path blocks (part.map hashBytes) = .ok part.flatten := by
  induction part with
  | nil => rfl
  | cons chunk rest ih =>
    obtain ⟨first, later⟩ := List.cons_subset.mp genuine
    obtain ⟨here, there⟩ := List.forall_mem_cons.mp held
    obtain ⟨data, found⟩ := Option.isSome_iff_exists.mp (AList.lookup_isSome.mpr here)
    obtain ⟨named, known⟩ := sound _ (AList.mem_lookup_iff.mp found)
    rw [List.map_cons, extract, found, ih later there, apart data known chunk first named]
    rfl

theorem reassemble_addFiles (apart : Apart hashBytes chunks) (sound : Sound hashBytes chunks blocks)
    (sources : List (String × Bytes)) (files : Blocks)
    (genuine : ∀ source ∈ sources, splitBlocks source.2 ⊆ chunks) :
    let archive := addFiles hashBytes sources blocks
    Sound hashBytes chunks archive.2 ∧ (∀ name ∈ blocks, name ∈ archive.2) ∧
      reassemble hashBytes archive.2 archive.1 files =
        .ok (sources.foldl (fun files source => files.insert source.1 source.2) files) := by
  induction sources generalizing blocks files with
  | nil => exact ⟨sound, fun _ known => known, rfl⟩
  | cons source rest ih =>
    obtain ⟨first, later⟩ := List.forall_mem_cons.mp genuine
    obtain ⟨grown, held⟩ := sound_addBlocks first sound
    obtain ⟨whole, kept, restored⟩ := ih grown (files.insert source.1 source.2) later
    refine ⟨whole, fun name known => kept name (held name (.inr known)), ?_⟩
    have content := extract_chunks apart whole source.1 first fun name listed =>
      kept name (held name (.inl listed))
    rw [(splitBlocks_chunked source.2).1] at content
    simp only [addFiles, addFile, reassemble, content, bind, Except.bind, ne_eq, not_true, if_false]
    exact restored

/-- Unless two of its blocks have the same digest, what is backed up passes the verification and is
restored as it was. -/
theorem archive_restores (sources : List (String × Bytes))
    (apart : Apart hashBytes (sources.flatMap fun source => splitBlocks source.2)) :
    let archive := addFiles hashBytes sources ∅
    verifyBlocks hashBytes (blockIndex archive.2) archive.2 = .ok () ∧
      reassemble hashBytes archive.2 archive.1 ∅ =
        .ok (sources.foldl (fun files source => files.insert source.1 source.2) ∅) := by
  intro archive
  obtain ⟨sound, _, restored⟩ := @reassemble_addFiles _ ∅ _ apart
    (fun _ listed => absurd listed List.not_mem_nil) sources ∅
    fun source listed chunk own => List.mem_flatMap.mpr ⟨source, listed, own⟩
  exact ⟨verifyBlocks_blockIndex.mpr fun entry listed => (sound entry listed).1, restored⟩

theorem two_files_restored :
    let archive := addFiles firstByte [("x", [1]), ("y", [2])] ∅
    (reassemble firstByte archive.2 archive.1 ∅).isOk = true := by
  intro archive
  rw [(archive_restores _ (by unfold Apart; decide +kernel)).2]
  rfl

end Cashp.Backup
