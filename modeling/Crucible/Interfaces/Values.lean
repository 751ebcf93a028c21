import Crucible.Lib.Checked
import Crucible.Lib.Text

/-!
# Values and bags (`interfaces/src/circuit/inputs.rs`)

* `FieldValue`           a value in canonical hexadecimal form: the form is a field of the type,
                         and `FieldValue.fromHex` is the only way in (`serde` calls it too);
* `Bag`                  an ordered list of named values, looked up by first match.  A public bag
                         can also be deserialized, which checks no name, so `PublicInputBag` is
                         any list; a `PrivateWitnessBag` only comes from `insert`;
* `Bag.insert_wellFormed`, `Bag.set_wellFormed`   names stay valid and distinct.
-/

namespace Crucible
open Checked Text

/-! ## field values -/

inductive FieldError where
  | invalidHex (reason : String)
  | invalidNameLength (max : Nat)
  | invalidNameCharacters
  | duplicateName (name : String)
deriving DecidableEq

def FieldError.message : FieldError → String
  | .invalidHex reason => s!"field value must be canonical lowercase hex, got: {reason}"
  | .invalidNameLength max => s!"field name must be 1..={max} characters"
  | .invalidNameCharacters => "field name may only contain lowercase alphanumerics and underscores"
  | .duplicateName name => s!"duplicate field name: {name}"

/-- `FieldValue::MAX_HEX_LEN` -/
def maxHexLen : Nat := 64

structure FieldValue where
  hex : String
  canonical : Canonical maxHexLen hex.toList
deriving DecidableEq

/-- the value a list of at most 64 digits denotes -/
def FieldValue.ofDigits (cs : List Char) (hlen : cs.length ≤ maxHexLen)
    (h : cs.all isHexDigit) : FieldValue where
  hex := String.ofList (canonicalHex cs)
  canonical := by
    rw [String.toList_ofList]
    exact canonicalHex_canonical (by decide) hlen h

theorem length_le_byteLen (cs : List Char) : cs.length ≤ byteLen cs := by
  induction cs with
  | nil => exact Nat.zero_le _
  | cons c cs ih =>
    have hc : 1 ≤ c.utf8Size := Char.utf8Size_pos c
    show cs.length + 1 ≤ c.utf8Size + byteLen cs
    omega

def FieldValue.fromHex (hex : String) : Except FieldError FieldValue :=
  let s := stripPrefix "0x".toList hex.toList
  if s = [] then .error (.invalidHex "empty")
  else if hlen : byteLen s > maxHexLen then .error (.invalidHex "longer than 64 hex chars")
  else if h : s.all isHexDigit then
    .ok (.ofDigits s (Nat.le_trans (length_le_byteLen s) (Nat.le_of_not_lt hlen)) h)
  else .error (.invalidHex "non-hex")

def FieldValue.zero : FieldValue := ⟨"0", by decide⟩

theorem canonical_one : Canonical maxHexLen "1".toList := by decide

def FieldValue.isZero (v : FieldValue) : Bool := v.hex == "0"

/-- a private value: the same text form, and no way to print it -/
structure SecretValue where
  value : FieldValue
deriving DecidableEq

def SecretValue.fromHex (hex : String) : Except FieldError SecretValue := do
  let canonical ← FieldValue.fromHex hex
  return ⟨canonical⟩

def SecretValue.intoHex (v : SecretValue) : String := v.value.hex

/-! ## bags -/

def isNameChar (c : Char) : Bool := isAsciiLower c || isAsciiDigit c || c == '_'

def validateName (name : String) : Except FieldError Unit := do
  ensure (¬ (name.toList = [] ∨ byteLen name.toList > 64)) (.invalidNameLength 64)
  ensure (name.toList.all isNameChar) .invalidNameCharacters

theorem validateName_ok {name : String} {w : Unit} : validateName name = .ok w ↔
    name.toList ≠ [] ∧ byteLen name.toList ≤ 64 ∧ name.toList.all isNameChar := by
  simp only [validateName, bind_ok, ensure_ok, exists_const, not_or, gt_iff_lt, Nat.not_lt,
    and_assoc]

structure Bag (α : Type) where
  entries : List (String × α)
deriving DecidableEq

namespace Bag
variable {α : Type}

def new : Bag α := ⟨[]⟩

def names (b : Bag α) : List String := b.entries.map Prod.fst
def values (b : Bag α) : List α := b.entries.map Prod.snd
def isEmpty (b : Bag α) : Bool := b.entries.isEmpty

/-- the value stored under `name`: of the first entry with that name -/
def get (b : Bag α) (name : String) : Option α :=
  (b.entries.find? fun e => e.1 == name).map Prod.snd

def insert (b : Bag α) (name : String) (value : α) : Except FieldError (Bag α) := do
  validateName name
  ensure (name ∉ b.names) (.duplicateName name)
  return ⟨b.entries ++ [(name, value)]⟩

/-- `value` in the place of the first entry with the name -/
def replaceFirst (name : String) (value : α) : List (String × α) → List (String × α)
  | [] => []
  | e :: es => if e.1 == name then (e.1, value) :: es else e :: replaceFirst name value es

def set (b : Bag α) (name : String) (value : α) : Except FieldError (Bag α) := do
  validateName name
  if name ∈ b.names then return ⟨replaceFirst name value b.entries⟩
  else return ⟨b.entries ++ [(name, value)]⟩

theorem get_eq_none {b : Bag α} {name : String} (h : name ∉ b.names) : b.get name = none := by
  unfold get
  rw [Option.map_eq_none_iff, List.find?_eq_none]
  intro e he heq
  exact h (List.mem_map.mpr ⟨e, he, by simpa using heq⟩)

theorem get_isSome_iff {b : Bag α} {name : String} : (b.get name).isSome ↔ name ∈ b.names := by
  constructor
  · intro hsome
    by_contra hno
    rw [get_eq_none hno] at hsome
    cases hsome
  · intro h
    obtain ⟨e, he, rfl⟩ := List.mem_map.mp h
    rw [get, Option.isSome_map, List.find?_isSome]
    exact ⟨e, he, by simp⟩

/-- where names are distinct, an entry is found under its name -/
theorem get_of_mem {b : Bag α} {e : String × α} (hnodup : b.names.Nodup) (he : e ∈ b.entries) :
    b.get e.1 = some e.2 := by
  obtain ⟨es⟩ := b
  induction es with
  | nil => exact absurd he List.not_mem_nil
  | cons d es ih =>
    obtain ⟨hd, hnodup⟩ := List.nodup_cons.mp hnodup
    rcases List.mem_cons.mp he with rfl | he
    · rw [get, List.find?_cons_of_pos (by simp)]
      rfl
    · have hne : d.1 ≠ e.1 := fun h => hd (h ▸ List.mem_map.mpr ⟨e, he, rfl⟩)
      rw [get, List.find?_cons_of_neg (by simpa using hne)]
      exact ih hnodup he

theorem mem_of_get {b : Bag α} {name : String} {value : α}
    (h : b.get name = some value) : (name, value) ∈ b.entries := by
  obtain ⟨entry, hfind, rfl⟩ := Option.map_eq_some_iff.mp h
  have hname : entry.1 = name := by simpa using List.find?_some hfind
  rw [← hname]
  exact List.mem_of_find?_eq_some hfind

/-- one value under every name of a list -/
def ofNames (ns : List String) (value : α) : Bag α := ⟨ns.map fun name => (name, value)⟩

theorem ofNames_names (ns : List String) (value : α) : (ofNames ns value).names = ns := by
  simp [names, ofNames, Function.comp_def]

theorem ofNames_get {ns : List String} {value : α} {name : String} (h : name ∈ ns) :
    (ofNames ns value).get name = some value := by
  unfold get ofNames
  rw [List.find?_map, Option.map_map]
  cases hf : ns.find? ((fun e : String × α => e.1 == name) ∘ fun name => (name, value)) with
  | none =>
    rw [List.find?_eq_none] at hf
    exact absurd (by simp) (hf name h)
  | some n => rfl

theorem ofNames_get_isSome {ns : List String} {value : α} {name : String} :
    ((ofNames ns value).get name).isSome ↔ name ∈ ns := by
  rw [get_isSome_iff, ofNames_names]

theorem eq_of_ofNames_get {ns : List String} {value v : α} {name : String}
    (h : (ofNames ns value).get name = some v) : v = value := by
  have hmem : name ∈ ns := ofNames_get_isSome.mp (by rw [h]; rfl)
  rw [ofNames_get hmem] at h
  exact (Option.some.inj h).symm

/-- names are valid and distinct -/
structure WellFormed (b : Bag α) : Prop where
  valid : ∀ name ∈ b.names, validateName name = .ok ()
  nodup : b.names.Nodup

theorem new_wellFormed : (new : Bag α).WellFormed :=
  ⟨fun _ h => absurd h List.not_mem_nil, List.nodup_nil⟩

theorem insert_ok {b b' : Bag α} {name : String} {value : α} : b.insert name value = .ok b' ↔
    validateName name = .ok () ∧ name ∉ b.names ∧ b' = ⟨b.entries ++ [(name, value)]⟩ := by
  simp only [insert, bind_ok, ensure_ok, exists_const, pure_ok]
  constructor
  · rintro ⟨_, hvalid, hnew, rfl⟩
    exact ⟨hvalid, hnew, rfl⟩
  · rintro ⟨hvalid, hnew, rfl⟩
    exact ⟨(), hvalid, hnew, rfl⟩

theorem insert_new {b : Bag α} {name : String} {value : α} (hvalid : validateName name = .ok ())
    (hnew : name ∉ b.names) : b.insert name value = .ok ⟨b.entries ++ [(name, value)]⟩ :=
  insert_ok.mpr ⟨hvalid, hnew, rfl⟩

theorem append_wellFormed {b : Bag α} (hb : b.WellFormed) {name : String} {value : α}
    (hvalid : validateName name = .ok ()) (hnew : name ∉ b.names) :
    WellFormed ⟨b.entries ++ [(name, value)]⟩ := by
  have hnames : names ⟨b.entries ++ [(name, value)]⟩ = b.names ++ [name] := by
    simp [names]
  constructor
  · rw [hnames]
    intro n hn
    rcases List.mem_append.mp hn with h | h
    · exact hb.valid n h
    · rw [List.mem_singleton.mp h]
      exact hvalid
  · rw [hnames]
    refine List.nodup_append.mpr ⟨hb.nodup, by simp, ?_⟩
    rintro a ha _ hmem rfl
    exact hnew (List.mem_singleton.mp hmem ▸ ha)

theorem insert_wellFormed {b b' : Bag α} {name : String} {value : α} (hb : b.WellFormed)
    (h : b.insert name value = .ok b') : b'.WellFormed := by
  obtain ⟨hvalid, hnew, rfl⟩ := insert_ok.mp h
  exact append_wellFormed hb hvalid hnew

theorem replaceFirst_names (name : String) (value : α) (es : List (String × α)) :
    (replaceFirst name value es).map Prod.fst = es.map Prod.fst := by
  induction es with
  | nil => rfl
  | cons e es ih =>
    unfold replaceFirst
    split
    · rfl
    · rw [List.map_cons, List.map_cons, ih]

theorem set_wellFormed {b b' : Bag α} {name : String} {value : α} (hb : b.WellFormed)
    (h : b.set name value = .ok b') : b'.WellFormed := by
  simp only [set, bind_ok] at h
  obtain ⟨_, hvalid, h⟩ := h
  split at h
  · obtain rfl := pure_ok.mp h
    have hnames : names ⟨replaceFirst name value b.entries⟩ = b.names :=
      replaceFirst_names name value b.entries
    exact ⟨hnames ▸ hb.valid, hnames ▸ hb.nodup⟩
  · obtain rfl := pure_ok.mp h
    exact append_wellFormed hb hvalid ‹_›

/-- `name=value` lines, in the order of the entries -/
def canonicalBytes (b : Bag FieldValue) : List UInt8 :=
  b.entries.flatMap fun e => (e.1 ++ "=" ++ e.2.hex ++ "\n").toUTF8.data.toList

end Bag

/-- public inputs or outputs -/
abbrev PublicInputBag := Bag FieldValue

abbrev OutputBag := PublicInputBag

/-- private inputs: a bag that `insert` has built -/
structure PrivateWitnessBag where
  bag : Bag SecretValue
  wellFormed : bag.WellFormed

def PrivateWitnessBag.new : PrivateWitnessBag := ⟨.new, Bag.new_wellFormed⟩

def PrivateWitnessBag.insert (b : PrivateWitnessBag) (name : String) (value : SecretValue) :
    Except FieldError PrivateWitnessBag :=
  match h : b.bag.insert name value with
  | .ok bag => .ok ⟨bag, Bag.insert_wellFormed b.wellFormed h⟩
  | .error e => .error e

def PrivateWitnessBag.get (b : PrivateWitnessBag) (name : String) : Option SecretValue :=
  b.bag.get name

def PrivateWitnessBag.names (b : PrivateWitnessBag) : List String := b.bag.names

def PrivateWitnessBag.isEmpty (b : PrivateWitnessBag) : Bool := b.bag.isEmpty

end Crucible
