import Cashp.Guard.IdentifierCore
import Cashp.Kit.Dictionary
import Mathlib.Data.String.Basic

/-!
Redaction of payloads before they are logged (`secret.go`). A payload is what reflection shows of a
value, its maps in the order they are gone through. Scrubbing of free text and the JSON encoder are
given.
-/

namespace Cashp.Guard

open Kit

def maskedValue : String := "xxxxx"

def truncatedMarker : String := "[truncated]"

def maxRedactDepth : Nat := 12

def sensitiveParamNames : List String :=
  ["access_token", "api_key", "apikey", "auth", "code", "key", "password", "pwd",
    "refresh_token", "secret", "session", "token"]

def isSensitiveName (name : String) : Bool :=
  sensitiveParamNames.any (containsText (lowerText name))

inductive Scalar
  | bool (value : Bool)
  | int (value : Int)
  | float (bits : UInt64)
  | complex (real imaginary : UInt64)
  deriving DecidableEq

structure Field where
  name : String
  exported : Bool
  tag : String

inductive Payload
  | invalid
  | secret (value : String)
  | time (rfc3339 : String)
  | reference (target : Option Payload)
  | text (value : String)
  | map (entries : List (Payload × Payload))
  | bytes (content : Option (List UInt8))
  | slice (elements : Option (List Payload))
  | array (elements : List Payload)
  | struct (fields : List (Field × Payload))
  | code
  | scalar (value : Scalar)

inductive Redacted
  | null
  | text (value : String)
  | scalar (value : Scalar)
  | list (elements : List Redacted)
  | object (entries : List (String × Redacted))

structure Renderer where
  scrubText : String → String
  marshal : Payload → Option String

def Field.outputName (field : Field) : Option String :=
  if field.tag = "-" then none
  else
    let name := String.ofList (field.tag.toList.takeWhile (· != ','))
    some (if name = "" then field.name else name)

def Field.sensitive (field : Field) : Bool :=
  isSensitiveName (field.outputName.getD field.name) || isSensitiveName field.name

def trimQuotes (text : String) : String :=
  String.ofList (((text.toList.dropWhile (· == '"')).reverse.dropWhile (· == '"')).reverse)

def mapKeyString (renderer : Renderer) : Payload → String
  | .text value => value
  | key =>
    match renderer.marshal key with
    | none => truncatedMarker
    | some text => trimQuotes text

def masking (sensitive : Bool) (value : Redacted) : Redacted :=
  if sensitive then .text maskedValue else value

def mapWrite (renderer : Renderer) (redact : Payload → Redacted) (entry : Payload × Payload) :
    String × Redacted :=
  let key := mapKeyString renderer entry.1
  (key, masking (isSensitiveName key) (redact entry.2))

def fieldWrite (redact : Payload → Redacted) (field : Field × Payload) :
    Option (String × Redacted) :=
  if field.1.exported then
    field.1.outputName.map fun name => (name, masking field.1.sensitive (redact field.2))
  else none

def redactValue (renderer : Renderer) : Nat → Payload → Redacted
  | 0, _ => .text truncatedMarker
  | levels + 1, payload =>
    match payload with
    | .invalid => .null
    | .secret _ => .text maskedValue
    | .time rfc3339 => .text rfc3339
    | .reference none => .null
    | .reference (some target) => redactValue renderer levels target
    | .text value => .text (renderer.scrubText value)
    | .map entries =>
      .object (Dictionary.build (entries.map (mapWrite renderer (redactValue renderer levels))))
    | .bytes none => .null
    | .bytes (some _) => .text maskedValue
    | .slice none => .null
    | .slice (some elements) => .list (elements.map (redactValue renderer levels))
    | .array elements => .list (elements.map (redactValue renderer levels))
    | .struct fields =>
      .object (Dictionary.build (fields.filterMap (fieldWrite (redactValue renderer levels))))
    | .code => .text truncatedMarker
    | .scalar value => .scalar value

def redactPayload (renderer : Renderer) (payload : Payload) : Redacted :=
  redactValue renderer (maxRedactDepth + 1) payload

open Dictionary

section

variable (renderer : Renderer)

mutual

inductive Alike : Payload → Payload → Prop
  | same (payload : Payload) : Alike payload payload
  | secret (value other : String) : Alike (.secret value) (.secret other)
  | bytes (content other : List UInt8) : Alike (.bytes (some content)) (.bytes (some other))
  | reference {target other : Payload} (alike : Alike target other) :
      Alike (.reference (some target)) (.reference (some other))
  | slice {elements others : List Payload} (alike : AlikeElements elements others) :
      Alike (.slice (some elements)) (.slice (some others))
  | array {elements others : List Payload} (alike : AlikeElements elements others) :
      Alike (.array elements) (.array others)
  | struct {fields others : List (Field × Payload)} (alike : AlikeFields fields others) :
      Alike (.struct fields) (.struct others)
  | map {entries listed others : List (Payload × Payload)} (alike : AlikeEntries entries listed)
      (shuffled : listed.Perm others) : Alike (.map entries) (.map others)

inductive AlikeElements : List Payload → List Payload → Prop
  | nil : AlikeElements [] []
  | cons {first other : Payload} {rest others : List Payload} (alike : Alike first other)
      (later : AlikeElements rest others) : AlikeElements (first :: rest) (other :: others)

inductive AlikeFields : List (Field × Payload) → List (Field × Payload) → Prop
  | nil : AlikeFields [] []
  | hidden {field : Field} (sensitive : field.sensitive = true) (value other : Payload)
      {rest others : List (Field × Payload)} (later : AlikeFields rest others) :
      AlikeFields ((field, value) :: rest) ((field, other) :: others)
  | shown {field : Field} {value other : Payload} (alike : Alike value other)
      {rest others : List (Field × Payload)} (later : AlikeFields rest others) :
      AlikeFields ((field, value) :: rest) ((field, other) :: others)

inductive AlikeEntries : List (Payload × Payload) → List (Payload × Payload) → Prop
  | nil : AlikeEntries [] []
  | hidden {key key' : Payload} (keys : Alike key key')
      (sensitive : isSensitiveName (mapKeyString renderer key) = true)
      (sensitive' : isSensitiveName (mapKeyString renderer key') = true) (value other : Payload)
      {rest others : List (Payload × Payload)} (later : AlikeEntries rest others) :
      AlikeEntries ((key, value) :: rest) ((key', other) :: others)
  | shown {key key' value other : Payload} (keys : Alike key key') (alike : Alike value other)
      {rest others : List (Payload × Payload)} (later : AlikeEntries rest others) :
      AlikeEntries ((key, value) :: rest) ((key', other) :: others)

end

end

def Blind (renderer : Renderer) (levels : Nat) (payload : Payload) : Prop :=
  ∀ other, Alike renderer payload other →
    redactValue renderer levels payload = redactValue renderer levels other

def Field.shown (field : Field) : Bool :=
  field.exported && field.outputName.isSome && !field.sensitive

def children (renderer : Renderer) : Payload → List Payload
  | .reference (some target) => [target]
  | .map entries =>
    (entries.filter fun entry => !isSensitiveName (mapKeyString renderer entry.1)).map Prod.snd
  | .slice (some elements) => elements
  | .array elements => elements
  | .struct fields =>
    (fields.filter fun field => field.1.shown).map Prod.snd
  | _ => []

def Throughout (renderer : Renderer) (check : Payload → Prop) : Nat → Payload → Prop
  | 0, _ => True
  | levels + 1, payload =>
    check payload ∧ ∀ child ∈ children renderer payload, Throughout renderer check levels child

def PlainKeys (renderer : Renderer) : Payload → Prop
  | .map entries => ∀ entry ∈ entries, ∀ other, Alike renderer entry.1 other →
      mapKeyString renderer other = mapKeyString renderer entry.1
  | _ => True

def DistinctKeys (renderer : Renderer) : Payload → Prop
  | .map entries => (entries.map fun entry => mapKeyString renderer entry.1).Nodup
  | _ => True

def DistinctNames (renderer : Renderer) : Payload → Prop
  | .map entries => (entries.map fun entry => mapKeyString renderer entry.1).Nodup
  | .struct fields => (fields.filterMap fun field =>
    if field.1.exported then field.1.outputName else none).Nodup
  | _ => True

variable {renderer : Renderer} {levels : Nat}
variable {redact : Payload → Redacted} {other payload : Payload} {fields : List (Field × Payload)}
variable {entries : List (Payload × Payload)}

theorem elements_redact {elements others : List Payload}
    (alike : AlikeElements renderer elements others)
    (each : ∀ element ∈ elements, ∀ other, Alike renderer element other →
      redactValue renderer levels element = redactValue renderer levels other) :
    elements.map (redactValue renderer levels) = others.map (redactValue renderer levels) := by
  induction elements generalizing others with
  | nil =>
    cases alike
    rfl
  | cons first rest ih =>
    cases alike with
    | cons here later =>
      grind

theorem fieldWrite_congr (field : Field) {value : Payload}
    (same : field.shown = true → redact value = redact other) :
    fieldWrite redact (field, value) = fieldWrite redact (field, other) := by
  by_cases shown : field.shown = true
  · simp only [fieldWrite, same shown]
  simp only [Field.shown, Bool.and_eq_true, not_and, Bool.not_eq_eq_eq_not, Bool.not_true,
    Bool.not_eq_false] at shown
  cases exported : field.exported with
  | false => simp only [fieldWrite, exported, Bool.false_eq_true, if_false]
  | true =>
    cases named : field.outputName with
    | none => simp only [fieldWrite, named, Option.map_none]
    | some =>
      have sensitive := shown ⟨exported, by rw [named]; rfl⟩
      simp only [fieldWrite, masking, sensitive, if_true]

theorem fields_redact {others : List (Field × Payload)} (alike : AlikeFields renderer fields others)
    (each : ∀ field ∈ fields, field.1.shown = true → ∀ other, Alike renderer field.2 other →
      redactValue renderer levels field.2 = redactValue renderer levels other) :
    fields.filterMap (fieldWrite (redactValue renderer levels)) =
      others.filterMap (fieldWrite (redactValue renderer levels)) := by
  induction fields generalizing others with
  | nil =>
    cases alike
    rfl
  | cons first rest ih =>
    obtain ⟨field, value⟩ := first
    rw [List.forall_mem_cons] at each
    cases alike with
    | hidden sensitive _ other later =>
      rw [List.filterMap_cons, List.filterMap_cons, ih later each.2, fieldWrite_congr field]
      intro shown
      simp [Field.shown, sensitive] at shown
    | shown here later =>
      rw [List.filterMap_cons, List.filterMap_cons, ih later each.2, fieldWrite_congr field]
      exact fun shown => each.1 shown _ here

theorem entries_redact {others : List (Payload × Payload)}
    (alike : AlikeEntries renderer entries others)
    (plain : ∀ entry ∈ entries, ∀ other, Alike renderer entry.1 other →
      mapKeyString renderer other = mapKeyString renderer entry.1)
    (each : ∀ entry ∈ entries, isSensitiveName (mapKeyString renderer entry.1) = false →
      ∀ other, Alike renderer entry.2 other →
      redactValue renderer levels entry.2 = redactValue renderer levels other) :
    entries.map (mapWrite renderer (redactValue renderer levels)) =
      others.map (mapWrite renderer (redactValue renderer levels)) := by
  induction entries generalizing others with
  | nil =>
    cases alike
    rfl
  | cons first rest ih =>
    obtain ⟨key, value⟩ := first
    rw [List.forall_mem_cons] at plain each
    cases alike with
    | hidden keys sensitive _ _ other later =>
      rw [List.map_cons, List.map_cons, ih later plain.2 each.2]
      simp only [mapWrite, plain.1 _ keys, sensitive, masking, if_true]
    | shown keys here later =>
      rw [List.map_cons, List.map_cons, ih later plain.2 each.2]
      cases sensitive : isSensitiveName (mapKeyString renderer key) with
      | true => simp only [mapWrite, plain.1 _ keys, sensitive, masking, if_true]
      | false => simp only [mapWrite, plain.1 _ keys, each.1 sensitive _ here]

theorem mapWrite_keys (redact : Payload → Redacted) (entries : List (Payload × Payload)) :
    (entries.map (mapWrite renderer redact)).map Prod.fst =
      entries.map fun entry => mapKeyString renderer entry.1 := by
  rw [List.map_map]
  rfl

theorem blind_of_plain (levels : Nat) (payload : Payload)
    (plain : Throughout renderer (PlainKeys renderer) levels payload)
    (distinct : Throughout renderer (DistinctKeys renderer) levels payload) :
    Blind renderer levels payload := by
  induction levels generalizing payload with
  | zero => exact fun _ _ => rfl
  | succ levels ih =>
    have inner : ∀ child ∈ children renderer payload, Blind renderer levels child :=
      fun child member => ih child (plain.2 child member) (distinct.2 child member)
    intro other alike
    cases alike with
    | same | secret | bytes => rfl
    | reference alike => exact inner _ List.mem_cons_self _ alike
    | slice alike => exact congrArg Redacted.list (elements_redact alike inner)
    | array alike => exact congrArg Redacted.list (elements_redact alike inner)
    | struct alike =>
      have written := fields_redact alike fun field member shown =>
        inner _ (List.mem_map_of_mem (List.mem_filter.mpr ⟨member, shown⟩))
      simp only [redactValue, written]
    | map alike shuffled =>
      have written := entries_redact alike plain.1
        fun entry member shown => inner _ (List.mem_map_of_mem
          (List.mem_filter.mpr ⟨member, by simp [shown]⟩))
      have apart := distinct.1
      rw [DistinctKeys, ← mapWrite_keys (redactValue renderer levels)] at apart
      simp only [redactValue]
      rw [build_perm apart (written ▸ shuffled.map _)]

theorem alikeElements_replace (before after : List Payload) (alike : Alike renderer payload other) :
    AlikeElements renderer (before ++ payload :: after) (before ++ other :: after) := by
  have refl : ∀ elements, AlikeElements renderer elements elements := by
    intro elements
    induction elements with
    | nil => exact .nil
    | cons first rest ih => exact .cons (.same first) ih
  induction before with
  | nil => exact .cons alike (refl after)
  | cons first rest ih => exact .cons (.same first) ih

theorem alikeFields_replace (before after : List (Field × Payload)) (field : Field)
    (alike : Alike renderer payload other) :
    AlikeFields renderer (before ++ (field, payload) :: after)
      (before ++ (field, other) :: after) := by
  have refl : ∀ fields, AlikeFields renderer fields fields := by
    intro fields
    induction fields with
    | nil => exact .nil
    | cons first rest ih => exact .shown (.same first.2) ih
  induction before with
  | nil => exact .shown alike (refl after)
  | cons first rest ih => exact .shown (.same first.2) ih

theorem alikeEntries_replace (before after : List (Payload × Payload)) {key key' : Payload}
    (keys : Alike renderer key key') (alike : Alike renderer payload other) :
    AlikeEntries renderer (before ++ (key, payload) :: after)
      (before ++ (key', other) :: after) := by
  have refl : ∀ entries, AlikeEntries renderer entries entries := by
    intro entries
    induction entries with
    | nil => exact .nil
    | cons first rest ih => exact .shown (.same first.1) (.same first.2) ih
  induction before with
  | nil => exact .shown keys alike (refl after)
  | cons first rest ih => exact .shown (.same first.1) (.same first.2) ih

theorem object_inj {writes writes' : List (String × Redacted)}
    (same : Redacted.object (build writes) = .object (build writes')) (name : String) :
    get name (build writes) = get name (build writes') := by
  rw [Redacted.object.inj same]

theorem Blind.keys (distinct : DistinctNames renderer (.map entries))
    (blind : Blind renderer (levels + 1) (.map entries)) : PlainKeys renderer (.map entries) := by
  intro entry member key alike
  obtain ⟨before, after, rfl⟩ := List.append_of_mem member
  have same := object_inj (blind _ (.map (alikeEntries_replace before after alike (.same entry.2))
    (.refl _))) (mapKeyString renderer entry.1)
  rw [DistinctNames, ← mapWrite_keys (redactValue renderer levels)] at distinct
  have found := get_build_of_mem distinct (List.mem_map_of_mem member)
  by_contra apart
  -- With another text for this key, no entry is left that has the old one.
  have lost : mapKeyString renderer entry.1 ∉ ((before ++ (key, entry.2) :: after).map
      (mapWrite renderer (redactValue renderer levels))).map Prod.fst := by
    rw [mapWrite_keys] at distinct ⊢
    grind
  have gone := get_build_eq_none lost
  rw [← same] at gone
  exact absurd (found.symm.trans gone) (by simp)

theorem mapped_inj {Item Result : Type} {f : Item → Result} {before after : List Item}
    {item other : Item}
    (same : (before ++ item :: after).map f = (before ++ other :: after).map f) :
    f item = f other := by
  simp_all

theorem fieldWrite_names (redact : Payload → Redacted) (fields : List (Field × Payload)) :
    (fields.filterMap (fieldWrite redact)).map Prod.fst = fields.filterMap fun field =>
      if field.1.exported then field.1.outputName else none := by
  rw [List.map_filterMap]
  congr 1
  funext field
  unfold fieldWrite
  split
  · rw [Option.map_map]
    exact Option.map_id'
  · rfl

theorem fieldWrite_shown {field : Field} {name : String} (shown : field.shown = true)
    (named : field.outputName = some name) (value : Payload) :
    fieldWrite redact (field, value) = some (name, redact value) := by
  simp only [Field.shown, Bool.and_eq_true, Bool.not_eq_true'] at shown
  simp [fieldWrite, shown, named, masking]

theorem Blind.child (distinct : DistinctNames renderer payload)
    (blind : Blind renderer (levels + 1) payload) :
    ∀ child ∈ children renderer payload, Blind renderer levels child := by
  intro child member other alike
  cases payload with
  | invalid | secret | time | text | bytes | code | scalar => cases member
  | reference target =>
    cases target with
    | none => cases member
    | some =>
      obtain rfl := List.mem_singleton.mp member
      exact blind _ (.reference alike)
  | slice elements =>
    cases elements with
    | none => cases member
    | some =>
      obtain ⟨before, after, rfl⟩ := List.append_of_mem member
      have same := blind _ (.slice (alikeElements_replace before after alike))
      exact mapped_inj (Redacted.list.inj same)
  | array =>
    obtain ⟨before, after, rfl⟩ := List.append_of_mem member
    have same := blind _ (.array (alikeElements_replace before after alike))
    exact mapped_inj (Redacted.list.inj same)
  | struct =>
    obtain ⟨⟨field, _⟩, kept, rfl⟩ := List.mem_map.mp member
    obtain ⟨within, shown⟩ := List.mem_filter.mp kept
    obtain ⟨before, after, rfl⟩ := List.append_of_mem within
    obtain ⟨name, named⟩ : ∃ name, field.outputName = some name := by
      simp only [Field.shown, Bool.and_eq_true, Option.isSome_iff_exists] at shown
      exact shown.1.2
    have same := object_inj (blind _ (.struct (alikeFields_replace before after field alike)))
      name
    have written : ∀ value, (name, redactValue renderer levels value) ∈
        (before ++ (field, value) :: after).filterMap
          (fieldWrite (redactValue renderer levels)) := fun value =>
      List.mem_filterMap.mpr ⟨(field, value), by simp, fieldWrite_shown shown named value⟩
    have apart : ∀ value, (((before ++ (field, value) :: after).filterMap
        (fieldWrite (redactValue renderer levels))).map Prod.fst).Nodup := fun value => by
      rw [fieldWrite_names]
      simpa [DistinctNames, List.filterMap_append, List.filterMap_cons] using distinct
    rw [get_build_of_mem (apart _) (written _), get_build_of_mem (apart _) (written _)] at same
    exact Option.some.inj same
  | map =>
    obtain ⟨⟨key, _⟩, kept, rfl⟩ := List.mem_map.mp member
    obtain ⟨within, shown⟩ := List.mem_filter.mp kept
    obtain ⟨before, after, rfl⟩ := List.append_of_mem within
    have same := object_inj (blind _ (.map (alikeEntries_replace before after (.same key) alike)
      (.refl _))) (mapKeyString renderer key)
    have written : ∀ value, (mapKeyString renderer key, redactValue renderer levels value) ∈
        (before ++ (key, value) :: after).map
          (mapWrite renderer (redactValue renderer levels)) := by
      intro value
      refine List.mem_map.mpr ⟨(key, value), by simp, ?_⟩
      simp only [Bool.not_eq_eq_eq_not, Bool.not_true] at shown
      simp [mapWrite, shown, masking]
    have apart : ∀ value, (((before ++ (key, value) :: after).map
        (mapWrite renderer (redactValue renderer levels))).map Prod.fst).Nodup := fun value => by
      rw [mapWrite_keys]
      simpa [DistinctNames] using distinct
    rw [get_build_of_mem (apart _) (written _), get_build_of_mem (apart _) (written _)] at same
    exact Option.some.inj same

theorem plain_of_blind (levels : Nat) (payload : Payload)
    (distinct : Throughout renderer (DistinctNames renderer) levels payload)
    (blind : Blind renderer levels payload) :
    Throughout renderer (PlainKeys renderer) levels payload := by
  induction levels generalizing payload with
  | zero => trivial
  | succ levels ih =>
    refine ⟨?_, fun child member =>
      ih child (distinct.2 child member) (blind.child distinct.1 child member)⟩
    cases payload with
    | map => exact blind.keys distinct.1
    | _ => trivial

/-- Secrets stay hidden where the keys of the maps give nothing away and have distinct texts. Where
all names that are written are distinct, the former is also needed. -/
theorem redaction_hides_secrets (renderer : Renderer) (payload : Payload) :
    (Throughout renderer (PlainKeys renderer) (maxRedactDepth + 1) payload →
      Throughout renderer (DistinctKeys renderer) (maxRedactDepth + 1) payload →
      ∀ other, Alike renderer payload other →
        redactPayload renderer payload = redactPayload renderer other) ∧
    (Throughout renderer (DistinctNames renderer) (maxRedactDepth + 1) payload →
      (∀ other, Alike renderer payload other →
        redactPayload renderer payload = redactPayload renderer other) →
      Throughout renderer (PlainKeys renderer) (maxRedactDepth + 1) payload) :=
  ⟨blind_of_plain _ payload, plain_of_blind _ payload⟩

def keyJSON : Payload → Option String
  | .reference (some (.scalar (.int value))) => some (toString value)
  | .reference (some (.text value)) => some (quote value)
  | .struct [(field, .text value)] =>
    some ("\x7b" ++ quote field.name ++ ":" ++ quote value ++ "\x7d")
  | _ => none

def unscrubbed : Renderer := ⟨id, keyJSON⟩

def accountPayload (session password : String) : Payload :=
  .map [(.text "user", .secret session), (.text "password", .text password)]

theorem account_secrets_hidden : redactPayload unscrubbed (accountPayload "s1" "hunter2") =
      redactPayload unscrubbed (accountPayload "s2" "swordfish") := by
  have leaf : ∀ check : Payload → Prop, check (.secret "s1") →
      Throughout unscrubbed check maxRedactDepth (.secret "s1") :=
    fun check holds => ⟨holds, nofun⟩
  have inside : children unscrubbed (accountPayload "s1" "hunter2") = [.secret "s1"] := by
    have shown : isSensitiveName "user" = false := by decide +kernel
    have hidden : isSensitiveName "password" = true := by decide +kernel
    simp [children, accountPayload, mapKeyString, shown, hidden]
  refine (redaction_hides_secrets unscrubbed (accountPayload "s1" "hunter2")).1 ⟨?_, ?_⟩ ⟨?_, ?_⟩ _
    (.map (.shown (.same _) (.secret _ _) (.hidden (.same _) ?_ ?_ _ _ .nil)) (.refl _))
  · intro entry member other alike
    simp only [List.mem_cons, List.not_mem_nil, or_false] at member
    rcases member with rfl | rfl
    · cases alike
      rfl
    · cases alike
      rfl
  · rw [inside]
    exact List.forall_mem_singleton.mpr (leaf _ trivial)
  · show (["user", "password"] : List String).Nodup
    decide
  · rw [inside]
    exact List.forall_mem_singleton.mpr (leaf _ trivial)
  · decide +kernel
  · decide +kernel

def credentialMap (password : String) : Payload :=
  .map [(.struct [(⟨"Password", true, ""⟩, .text password)], .scalar (.int 1))]

def Redacted.shownScalar : Redacted → Option Scalar
  | .scalar value => some value
  | _ => none

def numbersAndTexts : List (Payload × Payload) :=
  [(.reference (some (.scalar (.int 1))), .scalar (.int 10)),
    (.reference (some (.text "1")), .scalar (.int 20))]

/-- A password in the key of a map shows, and where two keys have one text the order in which the
map is gone through does. -/
theorem map_keys_show : (Alike unscrubbed (credentialMap "a") (credentialMap "b") ∧
      redactPayload unscrubbed (credentialMap "a") ≠ redactPayload unscrubbed (credentialMap "b")) ∧
    (Alike unscrubbed (.map numbersAndTexts) (.map numbersAndTexts.reverse) ∧
      redactPayload unscrubbed (.map numbersAndTexts) ≠
        redactPayload unscrubbed (.map numbersAndTexts.reverse)) := by
  refine ⟨⟨?_, fun same => ?_⟩, ?_, fun same => ?_⟩
  · exact .map (.shown (.struct (.hidden (by decide +kernel) _ _ .nil)) (.same _) .nil) (.refl _)
  · have found := congrArg Option.isSome
      (object_inj same "\x7b\"Password\":\"a\"\x7d")
    revert found
    decide +kernel
  · exact .map (.shown (.same _) (.same _) (.shown (.same _) (.same _) .nil))
      (List.reverse_perm _).symm
  · have found := congrArg (Option.bind · Redacted.shownScalar) (object_inj same "1")
    revert found
    decide +kernel

end Cashp.Guard
