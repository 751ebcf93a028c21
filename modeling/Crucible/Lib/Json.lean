import Crucible.Lib.Checked
import Crucible.Lib.Text
import Mathlib.Data.List.Nodup

/-!
# JSON documents, and the types that are written to them

* `Json`, `JsonText`    a document, and the text layer: an arbitrary renderer and parser
                        (`Json.compact` is the text that `serde_json` writes);
* `Wire`                a type with a JSON form that reads back: the round trip is a field;
* `Wire.viaString`, `Wire.transparent`   forms through a string, and through another type;
* `fieldsOf`, `required`, `optional`     the fields of a struct, from an object by name (none
                        twice, unknown ones ignored) or from an array by position;
                        `fieldsOf_obj`, `required_cons`, `optional_cons` and their companions for
                        other names read back what was written.

* `Json.part`, `Json.textAt`  what a document says at a field, before anything is read;
  `textAt_of_required`   a transparent form reads the string that is there.

A reader fails with the reason the parser would give, without the position in the text.
-/

namespace Serde
open Checked Text

/-! ## documents -/

inductive Json where
  | null
  | bool (b : Bool)
  /-- an integer literal of 64 bits -/
  | int (n : Int)
  /-- any other number, by its literal -/
  | float (literal : String)
  | str (s : String)
  | arr (items : List Json)
  | obj (fields : List (String × Json))

/-- a character of a JSON string -/
def escapeChar (c : Char) : List Char :=
  if c = '\"' ∨ c = '\\' then ['\\', c]
  else if c.toNat = 8 then ['\\', 'b']
  else if c.toNat = 9 then ['\\', 't']
  else if c.toNat = 10 then ['\\', 'n']
  else if c.toNat = 12 then ['\\', 'f']
  else if c.toNat = 13 then ['\\', 'r']
  else if c.toNat < 32 then
    "\\u00".toList ++ [hexDigit (c.toNat / 16), hexDigit (c.toNat % 16)]
  else [c]

def quote (s : String) : String :=
  String.ofList ('\"' :: s.toList.flatMap escapeChar ++ ['\"'])

mutual

/-- the compact text of a document -/
def Json.compact : Json → String
  | .null => "null"
  | .bool b => if b then "true" else "false"
  | .int n => toString n
  | .float literal => literal
  | .str s => quote s
  | .arr items => "[" ++ ",".intercalate (compactItems items) ++ "]"
  | .obj fields => "\x7b" ++ ",".intercalate (compactFields fields) ++ "\x7d"

def compactItems : List Json → List String
  | [] => []
  | j :: items => j.compact :: compactItems items

def compactFields : List (String × Json) → List String
  | [] => []
  | field :: fields => compactField field :: compactFields fields

def compactField : String × Json → String
  | (name, j) => quote name ++ ":" ++ j.compact

end

mutual

/-- the document as a `serde_json::Value`, whose objects are kept by key -/
def Json.value : Json → Json
  | .arr items => .arr (valueItems items)
  | .obj fields => .obj ((valueFields fields).mergeSort fun a b => decide (a.1 ≤ b.1))
  | j => j

def valueItems : List Json → List Json
  | [] => []
  | j :: items => j.value :: valueItems items

def valueFields : List (String × Json) → List (String × Json)
  | [] => []
  | field :: fields => valueField field :: valueFields fields

def valueField : String × Json → String × Json
  | (name, j) => (name, j.value)

end

/-- documents as text: `serde_json`, without the types -/
structure JsonText where
  render : Json → String
  parse : List UInt8 → Except String Json

/-- `to_vec`: the bytes of the text -/
def JsonText.write (text : JsonText) (j : Json) : List UInt8 := (text.render j).toUTF8.data.toList

/-- the text layer as far as one document: the text is the compact one, and it is read back -/
def JsonText.knowing (j : Json) : JsonText where
  render := Json.compact
  parse bytes :=
    if bytes = j.compact.toUTF8.data.toList then .ok j else .error "expected another document"

theorem JsonText.knowing_parse {j : Json} :
    (JsonText.knowing j).parse ((JsonText.knowing j).write j) = .ok j := if_pos rfl

/-! ## types with a JSON form -/

/-- a type with a JSON form that reads back, and is not the form of a missing value -/
class Wire (α : Type) where
  toJson : α → Json
  fromJson : Json → Except String α
  fromJson_toJson : ∀ a, fromJson (toJson a) = .ok a
  toJson_ne_null : ∀ a, toJson a ≠ .null

export Wire (toJson fromJson fromJson_toJson toJson_ne_null)

/-- a type whose form is a string -/
@[reducible] def Wire.viaString {α : Type} (print : α → String) (read : String → Except String α)
    (h : ∀ a, read (print a) = .ok a) : Wire α where
  toJson a := .str (print a)
  fromJson
    | .str s => read s
    | _ => .error "invalid type: expected a string"
  fromJson_toJson a := h a
  toJson_ne_null _ := by intro h; cases h

/-- `serde(transparent)`: the form of the only field -/
@[reducible] def Wire.transparent {α β : Type} [Wire β] (field : α → β) (make : β → α)
    (h : ∀ a, make (field a) = a) : Wire α where
  toJson a := toJson (field a)
  fromJson j := make <$> fromJson j
  fromJson_toJson a := by
    rw [fromJson_toJson]
    exact congrArg Except.ok (h a)
  toJson_ne_null a := toJson_ne_null (field a)

instance : Wire String := Wire.viaString id .ok fun _ => rfl

instance : Wire Bool where
  toJson := .bool
  fromJson
    | .bool b => .ok b
    | _ => .error "invalid type: expected a boolean"
  fromJson_toJson _ := rfl
  toJson_ne_null _ := by intro h; cases h

/-- an unsigned integer of `w` bits -/
def readUnsigned (w : Nat) : Json → Except String Nat
  | .int n => do
    ensure (0 ≤ n ∧ n < 2^w) s!"invalid value: integer `{n}`"
    return n.toNat
  | _ => .error "invalid type: expected an integer"

theorem readUnsigned_int {w n : Nat} (h : n < 2^w) : readUnsigned w (.int n) = .ok n := by
  have hrange : (0 : Int) ≤ n ∧ (n : Int) < 2^w := ⟨Int.natCast_nonneg n, by exact_mod_cast h⟩
  simp only [readUnsigned, bind_ok, ensure_ok, exists_const, pure_ok]
  exact ⟨hrange, Int.toNat_natCast n⟩

instance : Wire UInt32 where
  toJson n := .int n.toNat
  fromJson j := UInt32.ofNat <$> readUnsigned 32 j
  fromJson_toJson n := by
    rw [readUnsigned_int n.toNat_lt]
    exact congrArg Except.ok UInt32.ofNat_toNat
  toJson_ne_null _ := by intro h; cases h

instance : Wire UInt64 where
  toJson n := .int n.toNat
  fromJson j := UInt64.ofNat <$> readUnsigned 64 j
  fromJson_toJson n := by
    rw [readUnsigned_int n.toNat_lt]
    exact congrArg Except.ok UInt64.ofNat_toNat
  toJson_ne_null _ := by intro h; cases h

section
variable {α β : Type} [Wire α] [Wire β]

theorem mapM_fromJson (as : List α) : (as.map toJson).mapM fromJson = .ok as := by
  induction as with
  | nil => rfl
  | cons a as ih =>
    rw [List.map_cons, List.mapM_cons, fromJson_toJson, ih]
    rfl

instance : Wire (List α) where
  toJson as := .arr (as.map toJson)
  fromJson
    | .arr items => items.mapM fromJson
    | _ => .error "invalid type: expected a sequence"
  fromJson_toJson as := mapM_fromJson as
  toJson_ne_null _ := by intro h; cases h

instance : Wire (α × β) where
  toJson p := .arr [toJson p.1, toJson p.2]
  fromJson
    | .arr [a, b] => do return (← fromJson a, ← fromJson b)
    | .arr items => .error s!"invalid length {items.length}"
    | _ => .error "invalid type: expected a tuple of size 2"
  fromJson_toJson p := by
    show (do return (← fromJson (toJson p.1), ← fromJson (toJson p.2))) = Except.ok p
    rw [fromJson_toJson, fromJson_toJson]
    rfl
  toJson_ne_null _ := by intro h; cases h

end

/-! ## structs -/

/-- the named parts of a struct -/
def fieldsOf (names : List String) : Json → Except String (List (String × Json))
  | .obj fields => do
    ensureAll (fun name => (fields.map Prod.fst).count name ≤ 1)
      (fun name => s!"duplicate field `{name}`") names
    return fields
  | .arr items => do
    ensure (items.length = names.length) s!"invalid length {items.length}"
    return names.zip items
  | _ => .error "invalid type: expected a struct"

section
variable {α : Type} [Wire α] {names : List String} {fields : List (String × Json)} {name : String}

def required (fields : List (String × Json)) (name : String) : Except String α := do
  let j ← fromOption s!"missing field `{name}`" (fields.lookup name)
  fromJson j

/-- the form of a field that may be missing -/
def optJson : Option α → Json
  | none => .null
  | some a => toJson a

/-- a field that may be missing, or `null` -/
def optional (fields : List (String × Json)) (name : String) : Except String (Option α) :=
  match fields.lookup name with
  | none => .ok none
  | some .null => .ok none
  | some j => some <$> fromJson j

theorem fieldsOf_obj (h : (fields.map Prod.fst).Nodup) :
    fieldsOf names (.obj fields) = .ok fields := by
  simp only [fieldsOf, bind_ok, ensureAll_ok, exists_const, pure_ok]
  exact ⟨fun name _ => List.nodup_iff_count_le_one.mp h name, trivial⟩

@[simp] theorem required_cons {a : α} : required ((name, toJson a) :: fields) name = .ok a := by
  unfold required
  rw [List.lookup_cons_self]
  exact fromJson_toJson a

@[simp] theorem required_cons_ne {key : String} {j : Json} (h : name ≠ key) :
    (required ((key, j) :: fields) name : Except String α) = required fields name := by
  have hkey : (name == key) = false := by simpa using h
  unfold required
  rw [List.lookup_cons, hkey]

@[simp] theorem optional_cons {a : Option α} :
    optional ((name, optJson a) :: fields) name = .ok a := by
  unfold optional
  rw [List.lookup_cons_self]
  cases a with
  | none => rfl
  | some a =>
    show (match some (toJson a) with
      | none => .ok none
      | some .null => .ok none
      | some j => some <$> fromJson j) = Except.ok (some a)
    split
    · next heq => cases heq
    · next heq => exact absurd (Option.some.inj heq) (toJson_ne_null a)
    · next heq =>
      rw [← Option.some.inj heq, fromJson_toJson]
      rfl

@[simp] theorem optional_cons_ne {key : String} {j : Json} (h : name ≠ key) :
    (optional ((key, j) :: fields) name : Except String (Option α)) = optional fields name := by
  have hkey : (name == key) = false := by simpa using h
  unfold optional
  rw [List.lookup_cons, hkey]

theorem required_ok {a : α} : required fields name = .ok a ↔
    ∃ j, fields.lookup name = some j ∧ fromJson j = .ok a := by
  simp only [required, bind_ok, fromOption_ok]

/-- a field that may be missing is read as nothing, or from what is there -/
theorem optional_ok {a : Option α} (h : optional fields name = .ok a) :
    (a = none ∧ ∀ j, fields.lookup name = some j → j = .null) ∨
    ∃ j b, fields.lookup name = some j ∧ a = some b ∧ fromJson j = .ok b := by
  unfold optional at h
  split at h
  · next hnone =>
    refine .inl ⟨(Except.ok.inj h).symm, fun j hj => ?_⟩
    rw [hnone] at hj
    cases hj
  · next hnull =>
    refine .inl ⟨(Except.ok.inj h).symm, fun j hj => ?_⟩
    rw [hnull] at hj
    exact (Option.some.inj hj).symm
  · next j _ hj =>
    obtain ⟨b, hb, rfl⟩ := map_ok.mp h
    exact .inr ⟨j, b, hj, rfl, hb⟩

end

/-! ## what a document says -/

/-- the part of a struct under a name, in either of its forms -/
def Json.part (names : List String) (name : String) (j : Json) : Option Json :=
  (fieldsOf names j).toOption.bind fun fields => fields.lookup name

def Json.string : Json → Option String
  | .str s => some s
  | _ => none

/-- the string under a name -/
def Json.textAt (names : List String) (name : String) (j : Json) : Option String :=
  (j.part names name).bind Json.string

section
variable {names : List String} {fields : List (String × Json)} {name : String} {j : Json}

theorem part_of_fieldsOf (h : fieldsOf names j = .ok fields) :
    j.part names name = fields.lookup name := by
  unfold Json.part
  rw [h]
  rfl

theorem string_ok {s : String} : fromJson j = .ok s ↔ j = .str s := by
  constructor
  · intro h
    cases j with
    | str t => exact congrArg Json.str (Except.ok.inj h)
    | _ => cases h
  · rintro rfl
    rfl

/-- what a form through a string reads is the string itself -/
theorem transparent_ok {α : Type} {field : α → String} {make : String → α}
    (h : ∀ a, make (field a) = a) (hmake : ∀ s, field (make s) = s) {a : α}
    (hread : (Wire.transparent field make h).fromJson j = .ok a) : j = .str (field a) := by
  obtain ⟨s, hs, rfl⟩ := map_ok.mp hread
  rw [hmake]
  exact string_ok.mp hs

theorem textAt_of_required {α : Type} {field : α → String} {make : String → α}
    (h : ∀ a, make (field a) = a) (hmake : ∀ s, field (make s) = s) {a : α}
    (hfields : fieldsOf names j = .ok fields)
    (hread : @required α (Wire.transparent field make h) fields name = .ok a) :
    j.textAt names name = some (field a) := by
  obtain ⟨j', hlookup, hj'⟩ := (@required_ok α (Wire.transparent field make h) _ _ _).mp hread
  unfold Json.textAt
  rw [part_of_fieldsOf hfields, hlookup, transparent_ok h hmake hj']
  rfl

end

end Serde
