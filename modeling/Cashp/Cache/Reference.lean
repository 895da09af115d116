import Cashp.Cache.ReferenceCore

/-!
Facts about the reference. What it holds is what was stored last, and what is on its shelf stays
there until a request says otherwise.
-/

namespace Cashp.Cache

open Kit

variable {key : String} {reference : Reference} {past : List (Request × Answer)} {request : Request}
variable {text : String}

theorem lastWritten_concat (call : Request × Answer) :
    lastWritten key (past ++ [call]) = (written key call).getD (lastWritten key past) := by
  rw [lastWritten, List.foldl_append]
  rfl

theorem written_error (request : Request) (error : CacheError) :
    written key (request, .error error) = none := by
  cases request <;> rfl

def Current (past : List (Request × Answer)) (reference : Reference) : Prop :=
  ∀ item ∈ reference.shelf, lastWritten item.1 past = some item.2

namespace Current

variable (current : Current past reference) {call : Request × Answer}

include current

theorem less {after : Reference}
    (unwritten : ∀ key, written key call = none) (part : after.shelf ⊆ reference.shelf) :
    Current (past ++ [call]) after := by
  intro item there
  rw [lastWritten_concat, unwritten]
  exact current item (part there)

theorem guarded {ctx : Context} {missing : CacheError}
    {act : Shelf String Item → Reply × Shelf String Item}
    (met : Current (past ++ [(request, .ok (act reference.shelf).1)])
      { reference with shelf := (act reference.shelf).2 }) :
    Current (past ++ [(request, (reference.guarded ctx text missing act).1)])
      (reference.guarded ctx text missing act).2 := by
  rw [Reference.guarded]
  cases reference.refusal ctx text missing with
  | some error => exact current.less (fun _ => written_error request error) fun _ there => there
  | none => exact met

theorem stored {item : Item} (limit : Nat) (own : written key call = some (some item))
    (others : ∀ other, other ≠ key → written other call = none) : Current (past ++ [call])
      { reference with shelf := reference.shelf.store limit key item } := by
  intro kept there
  rw [lastWritten_concat]
  rcases List.mem_cons.mp (List.mem_of_mem_take there) with rfl | old
  · rw [own, Option.getD_some]
  obtain ⟨before, apart⟩ := Shelf.mem_without.mp old
  rw [others kept.1 apart]
  exact current kept before

theorem discarded (gone : String → Bool)
    (others : ∀ other, gone other = false → written other call = none) :
    Current (past ++ [call])
      { reference with shelf := reference.shelf.discard fun key _ => gone key } := by
  intro kept there
  dsimp only at there
  obtain ⟨before, stays⟩ := Shelf.mem_discard.mp there
  rw [lastWritten_concat, others kept.1 stays]
  exact current kept before

omit current in
theorem fetch_subset (key : String) (now : Int) (shelf : Shelf String Item) :
    (fetch key now shelf).2 ⊆ shelf := by
  rw [fetch]
  split
  · exact fun _ there => there
  rename_i item found
  split
  · exact fun _ there => (Shelf.mem_without.mp there).1
  intro kept there
  rcases List.mem_cons.mp there with rfl | old
  · exact Shelf.lookup_mem found
  · exact (Shelf.mem_without.mp old).1

theorem refer (request : Request) :
    Current (past ++ [(request, (request.refer reference).1)]) (request.refer reference).2 := by
  have whole : reference.shelf ⊆ reference.shelf := fun _ there => there
  cases request with
  | get ctx key now =>
    exact current.guarded (current.less (fun _ => rfl) (fetch_subset key now _))
  | set =>
    exact current.guarded (current.stored _ (if_pos rfl) fun _ apart => if_neg (Ne.symm apart))
  | setNX =>
    refine current.guarded ?_
    split
    · exact current.less (fun _ => rfl) whole
    · exact current.stored _ (if_pos rfl) fun _ apart => if_neg (Ne.symm apart)
  | delete ctx key =>
    refine current.guarded (current.discarded (· == key) ?_)
    exact fun other apart => if_neg (Ne.symm (beq_eq_false_iff_ne.mp apart))
  | deletePrefix ctx start =>
    refine current.guarded (current.discarded (MemoryCache.hasPrefix · start) ?_)
    exact fun other apart => if_neg (Bool.eq_false_iff.mp apart)
  | sweep =>
    refine current.less (fun _ => rfl) ?_
    rw [Request.refer]
    split
    · exact whole
    intro item there
    dsimp only at there
    exact (Shelf.mem_discard.mp there).1
  | close | len => exact current.less (fun _ => rfl) whole
  | release =>
    refine current.less (fun _ => rfl) ?_
    rw [Request.refer]
    split
    · exact List.nil_subset _
    · exact whole

end Current

theorem guarded_limit (ctx : Context) (text : String) (missing : CacheError)
    (act : Shelf String Item → Reply × Shelf String Item) :
    (reference.guarded ctx text missing act).2.limit = reference.limit := by
  rw [Reference.guarded]
  split <;> rfl

theorem refer_limit (request : Request) : (request.refer reference).2.limit = reference.limit := by
  cases request with
  | get | set | setNX | delete | deletePrefix => exact guarded_limit ..
  | sweep | release =>
    rw [Request.refer]
    split <;> rfl
  | close | len => rfl

theorem fetch_found {now : Int} {ctx : Context} {val : Bytes}
    (found : ((Request.get ctx key now).refer reference).1 = .ok (.found (some val))) :
    ∃ item, (key, item) ∈ reference.shelf ∧ item.val = val ∧ item.expired now = false := by
  rw [Request.refer, Reference.guarded] at found
  split at found
  · cases found
  rw [fetch] at found
  split at found
  · cases found
  rename_i item there
  split at found
  · cases found
  rename_i fresh
  cases found
  exact ⟨item, Shelf.lookup_mem there, rfl, Bool.eq_false_iff.mpr fresh⟩

def Request.Leaves (key : String) (item : Item) (reference : Reference) : Request → Prop
  | .get _ other now => other = key → item.expired now = false
  | .set _ other _ _ _ => other ≠ key ∧ (reference.shelf.lookup other = none →
      reference.limit ≤ reference.shelf.length →
      reference.shelf.getLast?.map Prod.fst ≠ some key)
  | .setNX _ other _ _ checked _ => (other = key → item.expired checked = false) ∧
      (reference.shelf.lookup other = none → reference.limit ≤ reference.shelf.length →
        reference.shelf.getLast?.map Prod.fst ≠ some key)
  | .delete _ other => other ≠ key
  | .deletePrefix _ start _ => MemoryCache.hasPrefix key start = false
  | .sweep now _ => item.expired now = false
  | .close | .release | .len => True

section

variable {reference : Reference} {key : String} {item : Item}
variable {ctx : Context} {missing : CacheError}
variable {act : Shelf String Item → Reply × Shelf String Item} {now ttl checked : Int} {val : Bytes}

theorem mem_guarded (there : (key, item) ∈ reference.shelf)
    (kept : (key, item) ∈ (act reference.shelf).2) :
    (key, item) ∈ (reference.guarded ctx text missing act).2.shelf := by
  rw [Reference.guarded]
  cases reference.refusal ctx text missing with
  | some => exact there
  | none => exact kept

theorem lookup_own (distinct : reference.shelf.Distinct) (there : (key, item) ∈ reference.shelf) :
    reference.shelf.lookup key = some item :=
  (Shelf.lookup_iff distinct).mpr there

variable (distinct : reference.shelf.Distinct) (fits : reference.shelf.length ≤ reference.limit)
  (there : (key, item) ∈ reference.shelf)

include distinct there in
theorem mem_fetch {other : String} (fresh : other = key → item.expired now = false) :
    (key, item) ∈ (fetch other now reference.shelf).2 := by
  rw [fetch]
  cases found : reference.shelf.lookup other with
  | none => exact there
  | some =>
    dsimp only
    by_cases same : other = key
    · subst same
      rw [lookup_own distinct there] at found
      cases found
      rw [fresh rfl]
      exact List.mem_cons_self
    · have kept : (key, item) ∈ reference.shelf.without other :=
        Shelf.mem_without.mpr ⟨there, Ne.symm same⟩
      split
      · exact kept
      · exact List.mem_cons_of_mem _ kept

include distinct fits there in
theorem mem_refer (leaves : request.Leaves key item reference)
    (working : (request.refer reference).2.closed = false) :
    (key, item) ∈ (request.refer reference).2.shelf := by
  cases request with
  | get => exact mem_guarded there (mem_fetch distinct there leaves)
  | set =>
    exact mem_guarded there (Shelf.mem_store there leaves.1 fits leaves.2)
  | setNX ctx other val ttl checked stored =>
    refine mem_guarded there ?_
    split
    · exact there
    rename_i free
    refine Shelf.mem_store there ?_ fits leaves.2
    rintro rfl
    rw [lookup_own distinct there, Option.any_some, leaves.1 rfl] at free
    exact free rfl
  | delete =>
    exact mem_guarded there (Shelf.mem_without.mpr ⟨there, Ne.symm leaves⟩)
  | deletePrefix ctx start =>
    have kept := Shelf.stays_discard (fun key _ => MemoryCache.hasPrefix key start) there leaves
    exact mem_guarded there kept
  | sweep now =>
    rw [Request.refer]
    split
    · exact there
    · exact Shelf.stays_discard (fun _ (item : Item) => item.expired now) there leaves
  | close | len => exact there
  | release =>
    rw [Request.refer] at working ⊢
    grind

theorem refer_error {error : CacheError} (failed : (request.refer reference).1 = .error error) :
    (request.refer reference).2 = reference := by
  have guarded : ∀ ctx text missing act,
      (reference.guarded ctx text missing act).1 = .error error →
        (reference.guarded ctx text missing act).2 = reference := by
    intro ctx text missing act
    rw [Reference.guarded]
    cases reference.refusal ctx text missing with
    | some => exact fun _ => rfl
    | none => exact nofun
  cases request with
  | get | set | setNX | delete | deletePrefix => exact guarded _ _ _ _ failed
  | sweep | close | release | len => cases failed

theorem guarded_ok {reply : Reply}
    (passed : (reference.guarded ctx text missing act).1 = .ok reply) :
    reference.closed = false ∧ (act reference.shelf).1 = reply ∧
      (reference.guarded ctx text missing act).2 =
        { reference with shelf := (act reference.shelf).2 } := by
  rw [Reference.guarded] at passed ⊢
  cases refused : reference.refusal ctx text missing with
  | some =>
    rw [refused] at passed
    cases passed
  | none =>
    rw [refused] at passed
    refine ⟨?_, Except.ok.inj passed, rfl⟩
    unfold Reference.refusal at refused
    grind

theorem closed_stays (request : Request) (shut : reference.closed = true) :
    (request.refer reference).2.closed = true := by
  have guarded : ∀ ctx text missing act,
      (reference.guarded ctx text missing act).2.closed = true := by
    intro ctx text missing act
    rw [Reference.guarded]
    split <;> exact shut
  cases request with
  | get | set | setNX | delete | deletePrefix => exact guarded _ _ _ _
  | sweep | release =>
    rw [Request.refer]
    split <;> exact shut
  | close => rfl
  | len => exact shut

include distinct there in
theorem setNX_refused {stored : Int} (fresh : item.expired checked = false) :
    ((Request.setNX ctx key val ttl checked stored).refer reference).1 ≠ .ok (.stored true) := by
  intro won
  have reply := (guarded_ok won).2.1
  rw [lookup_own distinct there, Option.any_some, fresh] at reply
  cases reply

theorem setNX_won {stored : Int}
    (won : ((Request.setNX ctx key val ttl checked stored).refer reference).1 = .ok (.stored true))
    (room : 0 < reference.limit) : (key, .stored val ttl stored) ∈
      ((Request.setNX ctx key val ttl checked stored).refer reference).2.shelf := by
  obtain ⟨_, reply, after⟩ := guarded_ok won
  rw [Request.refer, after]
  dsimp only at reply ⊢
  split at reply
  · cases reply
  rename_i free
  rw [if_neg free, Shelf.store, Shelf.bring, ← Nat.succ_pred_eq_of_pos room,
    List.take_succ_cons]
  exact List.mem_cons_self

include distinct there in
theorem get_sees (found : ((Request.get ctx key now).refer reference).1 = .ok (.found (some val))) :
    val = item.val := by
  obtain ⟨seen, also, rfl, _⟩ := fetch_found found
  have same := lookup_own distinct there
  rw [lookup_own distinct also] at same
  rw [Option.some.inj same]

end

end Cashp.Cache
