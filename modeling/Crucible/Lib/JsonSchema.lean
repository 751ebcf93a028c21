import Crucible.Lib.Json
import Mathlib.Algebra.Field.Rat

/-!
# JSON Schema, draft 7

A schema is the documents it admits, and here are the keywords they are put together from.  A
keyword for one kind of document admits every document of another kind, and a keyword that is not
one of the draft's constrains nothing.

* `schema`                      the keywords of one object, all of them;
* `type`, `enum`, `anyOf`, `minimum`        for every kind of document;
* `pattern`, `minLength`, `maxLength`       for strings; lengths are counted in characters;
* `items`, `minItems`, `maxItems`, `uniqueItems`   for arrays;
* `properties`, `required`      for objects; `properties` says what other names hold, too;
* `fits_cons`, `fits_append`    a pattern is matched by a text cut into its pieces;
* `properties_obj`, `required_obj`   what an object has to say, name by name.
-/

namespace JsonSchema
open Serde Text

abbrev Schema := Json → Bool

/-- no document -/
def nothing : Schema := fun _ => false

def schema (keywords : List Schema) : Schema := fun j => keywords.all fun keyword => keyword j

/-! ## numbers -/

/-- decimal digits, with or without a sign -/
def signedDigits (cs : List Char) : Int :=
  let magnitude (ds : List Char) : Nat := ds.foldl (fun acc c => 10 * acc + (c.toNat - 48)) 0
  match cs with
  | '-' :: ds => -magnitude ds
  | '+' :: ds => magnitude ds
  | ds => magnitude ds

/-- digits, a fraction, an exponent -/
def literalNumber (literal : String) : ℚ :=
  let cs := literal.toList.map lower
  let mantissa := cs.takeWhile (· != 'e')
  let exponent := signedDigits (cs.dropWhile (· != 'e')).tail
  let fraction := (mantissa.dropWhile (· != '.')).tail
  signedDigits (mantissa.filter (· != '.')) * (10 : ℚ)^(exponent - fraction.length)

/-- the number that a document is -/
def number : Json → Option ℚ
  | .int n => some n
  | .float literal => some (literalNumber literal)
  | _ => none

/-! ## equality -/

mutual

/-- documents are equal as values: numbers by number, objects without regard to order -/
def same : Json → Json → Bool
  | .null, j => match j with
    | .null => true
    | _ => false
  | .bool a, j => match j with
    | .bool b => a == b
    | _ => false
  | .int n, j => number j == some (n : ℚ)
  | .float literal, j => number j == some (literalNumber literal)
  | .str s, j => match j with
    | .str t => s == t
    | _ => false
  | .arr items, j => match j with
    | .arr items' => sameItems items items'
    | _ => false
  | .obj fields, j => match j with
    | .obj fields' => fields.length == fields'.length && sameFields fields fields'
    | _ => false

def sameItems : List Json → List Json → Bool
  | [], items' => items'.isEmpty
  | j :: items, items' => match items' with
    | [] => false
    | j' :: items' => same j j' && sameItems items items'

/-- every field of the first is a field of the second -/
def sameFields : List (String × Json) → List (String × Json) → Bool
  | [], _ => true
  | field :: fields, fields' => sameField field fields' && sameFields fields fields'

def sameField : String × Json → List (String × Json) → Bool
  | (name, j), fields' => match fields'.lookup name with
    | some j' => same j j'
    | none => false

end

/-! ## every kind of document -/

inductive Kind where
  | null
  | boolean
  | integer
  | number
  | string
  | array
  | object

def Kind.admits : Kind → Json → Bool
  | .null, .null => true
  | .boolean, .bool _ => true
  | .integer, j => (JsonSchema.number j).any fun q => q.den == 1
  | .number, j => (JsonSchema.number j).isSome
  | .string, .str _ => true
  | .array, .arr _ => true
  | .object, .obj _ => true
  | _, _ => false

def type (kinds : List Kind) : Schema := fun j => kinds.any fun kind => kind.admits j

def enum (values : List Json) : Schema := fun j => values.any fun value => same value j

def anyOf (schemas : List Schema) : Schema := fun j => schemas.any fun schema => schema j

def minimum (least : ℚ) : Schema := fun j => (number j).all fun q => least ≤ q

/-! ## strings -/

def onString (p : List Char → Bool) : Schema
  | .str s => p s.toList
  | _ => true

def minLength (least : Nat) : Schema := onString fun cs => least ≤ cs.length
def maxLength (most : Nat) : Schema := onString fun cs => cs.length ≤ most

/-- a character class, repeated: `[…]{least,most}`, or `[…]{least,}` -/
structure Piece where
  chars : Char → Bool
  least : Nat
  most : Option Nat

def Piece.admits (p : Piece) (cs : List Char) : Bool :=
  cs.all p.chars && p.least ≤ cs.length && p.most.all fun most => cs.length ≤ most

/-- the whole text is cut into what the pieces admit -/
def fits : List Piece → List Char → Bool
  | [], cs => cs.isEmpty
  | p :: ps, cs =>
    (List.range (cs.length + 1)).any fun n => p.admits (cs.take n) && fits ps (cs.drop n)

/-- `^…$` -/
def pattern (pieces : List Piece) : Schema := onString (fits pieces)

/-! ## arrays -/

def onArray (p : List Json → Bool) : Schema
  | .arr js => p js
  | _ => true

def items (schema : Schema) : Schema := onArray fun js => js.all schema
def minItems (least : Nat) : Schema := onArray fun js => least ≤ js.length
def maxItems (most : Nat) : Schema := onArray fun js => js.length ≤ most

def distinct : List Json → Bool
  | [] => true
  | j :: js => js.all (fun j' => !same j j') && distinct js

def uniqueItems : Schema := onArray distinct

/-! ## objects -/

def onObject (p : List (String × Json) → Bool) : Schema
  | .obj fields => p fields
  | _ => true

/-- `properties`, with `additionalProperties` for the names that are not among them -/
def properties (known : List (String × Schema)) (additional : Schema) : Schema :=
  onObject fun fields => fields.all fun field =>
    ((known.lookup field.1).getD additional) field.2

def required (names : List String) : Schema :=
  onObject fun fields => names.all fun name => fields.any fun field => field.1 == name

/-! ## what the keywords say -/

section
variable {cs : List Char} {p : Piece} {ps : List Piece}

theorem Piece.admits_iff : p.admits cs ↔
    (∀ c ∈ cs, p.chars c) ∧ p.least ≤ cs.length ∧ ∀ most, p.most = some most → cs.length ≤ most := by
  unfold Piece.admits
  cases p.most <;> simp [and_assoc]

theorem fits_cons : fits (p :: ps) cs ↔ ∃ a b, cs = a ++ b ∧ p.admits a ∧ fits ps b := by
  simp only [fits, List.any_eq_true, Bool.and_eq_true, List.mem_range]
  constructor
  · intro h
    obtain ⟨n, _, ha, hb⟩ := h
    exact ⟨cs.take n, cs.drop n, (List.take_append_drop n cs).symm, ha, hb⟩
  · intro h
    obtain ⟨a, b, rfl, ha, hb⟩ := h
    refine ⟨a.length, ?_, ?_⟩
    · rw [List.length_append]
      omega
    · rw [List.take_left, List.drop_left]
      exact ⟨ha, hb⟩

theorem fits_append {a b : List Char} (ha : p.admits a) (hb : fits ps b) :
    fits (p :: ps) (a ++ b) :=
  fits_cons.mpr ⟨a, b, rfl, ha, hb⟩

theorem fits_singleton : fits [p] cs ↔ p.admits cs := by
  rw [fits_cons]
  constructor
  · intro h
    obtain ⟨a, b, rfl, ha, hb⟩ := h
    rw [List.isEmpty_iff.mp hb, List.append_nil]
    exact ha
  · intro h
    exact ⟨cs, [], (List.append_nil cs).symm, h, rfl⟩

end

section
variable {fields : List (String × Json)} {j : Json}

@[simp] theorem schema_iff {keywords : List Schema} :
    schema keywords j ↔ ∀ keyword ∈ keywords, keyword j :=
  List.all_eq_true

theorem schema_pair {k k' : Schema} : schema [k, k'] j ↔ k j ∧ k' j := by
  rw [schema_iff, List.forall_mem_cons, List.forall_mem_singleton]

theorem enum_iff {values : List Json} : enum values j ↔ ∃ value ∈ values, same value j :=
  List.any_eq_true

@[simp] theorem properties_obj {known : List (String × Schema)} {additional : Schema} :
    properties known additional (.obj fields) ↔
      ∀ field ∈ fields, ((known.lookup field.1).getD additional) field.2 :=
  List.all_eq_true

@[simp] theorem required_obj {names : List String} :
    required names (.obj fields) ↔ ∀ name ∈ names, name ∈ fields.map Prod.fst := by
  show (names.all fun name => fields.any fun field => field.1 == name) = true ↔ _
  simp only [List.all_eq_true, List.any_eq_true, beq_iff_eq, List.mem_map]

/-- an object with no other names than the known ones and these among them -/
theorem object_iff {known : List (String × Schema)} {additional : Schema} {names : List String} :
    schema [type [.object], properties known additional, required names] (.obj fields) ↔
      (∀ field ∈ fields, ((known.lookup field.1).getD additional) field.2) ∧
        ∀ name ∈ names, name ∈ fields.map Prod.fst := by
  rw [schema_iff, List.forall_mem_cons, List.forall_mem_cons, List.forall_mem_singleton,
    properties_obj, required_obj]
  exact and_iff_right rfl

@[simp] theorem items_arr {element : Schema} {js : List Json} :
    items element (.arr js) ↔ ∀ j ∈ js, element j :=
  List.all_eq_true

theorem distinct_iff {js : List Json} : distinct js ↔ js.Pairwise fun a b => same a b = false := by
  induction js with
  | nil => exact iff_of_true rfl List.Pairwise.nil
  | cons j js ih =>
    rw [distinct, Bool.and_eq_true, ih, List.pairwise_cons, List.all_eq_true]
    refine and_congr_left fun _ => forall₂_congr fun j' _ => ?_
    rw [Bool.not_eq_true']

/-- distinct values have distinct documents, where documents that are the same are of one value -/
theorem distinct_map {α : Type} {f : α → Json} (h : ∀ a b, same (f a) (f b) ↔ a = b)
    (as : List α) : distinct (as.map f) ↔ as.Nodup := by
  rw [distinct_iff, List.pairwise_map]
  refine ⟨fun hp => hp.imp fun hsame heq => ?_, fun hn => hn.imp fun hne => ?_⟩
  · rw [(h _ _).mpr heq] at hsame
    cases hsame
  · exact Bool.eq_false_iff.mpr fun hsame => hne ((h _ _).mp hsame)

@[simp] theorem same_str {s t : String} : same (.str s) (.str t) ↔ s = t := by
  rw [same]
  exact beq_iff_eq

end

/-- a natural number, as every unsigned integer is written -/
theorem integer_natCast (n : Nat) : type [.integer] (.int n) := by
  show ((some ((n : Int) : ℚ)).any (fun q => q.den == 1) || false) = true
  rw [Option.any_some, Rat.den_intCast]
  rfl

theorem minimum_natCast {least n : Nat} (h : least ≤ n) : minimum least (.int n) := by
  show decide ((least : ℚ) ≤ ((n : Int) : ℚ)) = true
  rw [decide_eq_true_eq, Int.cast_natCast, Nat.cast_le]
  exact h

end JsonSchema
