import Crucible.Interfaces.Values

/-!
# Circuits: operations, identifiers, versions and expectations (`interfaces/src/circuit/`)

* `Operation`, `CircuitId`, `Version`   what names a circuit; a `CircuitId` can be deserialized
                          unchecked, so it is any string, and `CircuitId.new` is the check;
* `expectations`          the pinned interface of each protocol circuit: private parameters,
                          public parameters, return values, in the order of the circuit;
* `expectations_names`    every expected name is a valid one, and stands at one position;
* `pinnedWord`            the word at the position of a public name.
-/

namespace Crucible
open Checked Text

/-! ## operations -/

inductive Operation where
  | register
  | deposit
  | merge
  | transfer
  | withdraw
deriving DecidableEq

def Operation.asStr : Operation → String
  | .register => "register"
  | .deposit => "deposit"
  | .merge => "merge"
  | .transfer => "transfer"
  | .withdraw => "withdraw"

/-- the operations that run against a state root -/
def Operation.stateBound : Operation → Bool
  | .register => false
  | .deposit => false
  | .merge => true
  | .transfer => true
  | .withdraw => true

theorem Operation.asStr_injective {a b : Operation} (h : a.asStr = b.asStr) : a = b := by
  cases a <;> cases b <;> first | rfl | exact absurd h (by decide)

/-! ## circuit identifiers -/

structure CircuitId where
  id : String
deriving DecidableEq

inductive CircuitIdError where
  | invalidLength (actual max : Nat)
  | invalidCharacters
deriving DecidableEq

/-- `CircuitId::MAX_LEN` -/
def CircuitId.maxLen : Nat := 128

def CircuitId.forOperation (operation : Operation) : CircuitId := ⟨operation.asStr⟩

def isCircuitIdChar (c : Char) : Bool := isAsciiAlphanumeric c || c == '-' || c == '_' || c == '.'

def CircuitId.new (id : String) : Except CircuitIdError CircuitId := do
  ensure (¬ (id.toList = [] ∨ byteLen id.toList > CircuitId.maxLen))
    (.invalidLength (byteLen id.toList) CircuitId.maxLen)
  ensure (id.toList.all isCircuitIdChar) .invalidCharacters
  return ⟨id⟩

theorem CircuitId.new_ok {text : String} {c : CircuitId} : CircuitId.new text = .ok c ↔
    ¬ (text.toList = [] ∨ byteLen text.toList > maxLen) ∧ text.toList.all isCircuitIdChar ∧
      c = ⟨text⟩ := by
  simp only [CircuitId.new, bind_ok, ensure_ok, exists_const, pure_ok, @eq_comm _ c]

/-! ## versions -/

structure Version where
  major : UInt32
  minor : UInt32
  patch : UInt32
deriving DecidableEq

/-- `Display` -/
def Version.display (v : Version) : String :=
  s!"{v.major.toNat}.{v.minor.toNat}.{v.patch.toNat}"

/-- `FromStr`: three decimal numbers between dots; `none` is `VersionParseError::Malformed` -/
def Version.parse (s : String) : Option Version :=
  match split '.' s with
  | [a, b, c] => do
    let major ← parseU32 a.toList
    let minor ← parseU32 b.toList
    let patch ← parseU32 c.toList
    return { major, minor, patch }
  | _ => none

theorem Version.split_display (v : Version) :
    split '.' v.display = [String.ofList (Nat.toDigits 10 v.major.toNat),
      String.ofList (Nat.toDigits 10 v.minor.toNat),
      String.ofList (Nat.toDigits 10 v.patch.toNat)] := by
  have hdot (n : Nat) : '.' ∉ Nat.toDigits 10 n :=
    fun h => absurd (isAsciiDigit_toDigits h) (by decide)
  have hlist : v.display.toList = Nat.toDigits 10 v.major.toNat ++
      '.' :: (Nat.toDigits 10 v.minor.toNat ++ '.' :: Nat.toDigits 10 v.patch.toNat) := by
    simp only [display, String.toList_append, Nat.toString_eq_ofList_toDigits,
      String.toList_ofList, List.append_assoc]
    rfl
  rw [split, hlist, List.splitOn_append_cons_self_of_not_mem (hdot _),
    List.splitOn_append_cons_self_of_not_mem (hdot _), List.splitOn_eq_singleton (hdot _)]
  rfl

/-- a version is read back from its display -/
theorem Version.parse_display (v : Version) : parse v.display = some v := by
  unfold parse
  rw [split_display]
  simp only [String.toList_ofList, parseU32_toDigits]
  rfl

/-- the texts that are a version's display are those with three plain numbers -/
theorem Version.display_eq_iff {v : Version} {text : String} (h : parse text = some v) :
    v.display = text ↔ ∀ part ∈ split '.' text, PlainDecimal part.toList := by
  constructor
  · intro heq
    rw [← heq, split_display]
    intro part hpart
    have hplain (n : Nat) : PlainDecimal (String.ofList (Nat.toDigits 10 n)).toList := by
      rw [String.toList_ofList]
      exact plainDecimal_toDigits n
    simp only [List.mem_cons, List.not_mem_nil, or_false] at hpart
    rcases hpart with rfl | rfl | rfl <;> exact hplain _
  · intro hplain
    refine split_injective (c := '.') ?_
    rw [split_display]
    unfold parse at h
    split at h
    · next a b c hsplit =>
      rw [hsplit] at hplain ⊢
      obtain ⟨ha, hplain⟩ := List.forall_mem_cons.mp hplain
      obtain ⟨hb, hplain⟩ := List.forall_mem_cons.mp hplain
      have hc := hplain c List.mem_cons_self
      obtain ⟨major, hmajor, h⟩ := Option.bind_eq_some_iff.mp h
      obtain ⟨minor, hminor, h⟩ := Option.bind_eq_some_iff.mp h
      obtain ⟨patch, hpatch, h⟩ := Option.bind_eq_some_iff.mp h
      obtain rfl := Option.some.inj h
      rw [← ha.eq_toDigits hmajor, ← hb.eq_toDigits hminor, ← hc.eq_toDigits hpatch,
        String.ofList_toList, String.ofList_toList, String.ofList_toList]
    · cases h

/-! ## expectations -/

structure CircuitExpectations where
  priv : List String
  publicParams : List String
  returns : List String

/-- parameters, then returns -/
def CircuitExpectations.publicNames (e : CircuitExpectations) : List String :=
  e.publicParams ++ e.returns

def expectations : Operation → CircuitExpectations
  | .register =>
    { priv := ["account_sk"]
      publicParams := ["account_address"]
      returns := [] }
  | .deposit =>
    { priv := ["account_sk", "old_amount", "old_blinding", "amount", "blinding"]
      publicParams := ["token_address", "account_address", "old_commitment"]
      returns := ["new_commitment", "nullifier"] }
  | .merge =>
    { priv := ["account_sk", "amount_a", "blinding_a", "amount_b", "blinding_b", "blinding"]
      publicParams := ["token_address", "account_address", "commitment_a", "commitment_b",
        "root_hi", "root_lo"]
      returns := ["merged_commitment", "nullifier_a", "nullifier_b"] }
  | .transfer =>
    { priv := ["sender_sk", "amount", "old_amount", "old_blinding", "recipient_blinding",
        "change_blinding"]
      publicParams := ["token_address", "sender_address", "recipient_address",
        "old_sender_commitment", "root_hi", "root_lo"]
      returns := ["recipient_commitment", "change_commitment", "nullifier"] }
  | .withdraw =>
    { priv := ["account_sk", "amount", "old_amount", "old_blinding", "change_blinding"]
      publicParams := ["token_address", "account_address", "commitment", "root_hi", "root_lo"]
      returns := ["change_commitment", "nullifier"] }

def privateNames (operation : Operation) : List String := (expectations operation).priv

/-- every expected name is one that a bag accepts, and is expected once -/
theorem expectations_names (operation : Operation) :
    (∀ name ∈ privateNames operation ++ (expectations operation).publicNames,
      validateName name = .ok ()) ∧ (privateNames operation).Nodup ∧
    (expectations operation).publicNames.Nodup := by
  cases operation <;> decide

/-- the root halves are public parameters of the state-bound circuits, and of no other -/
theorem root_mem_publicParams (operation : Operation) :
    ("root_hi" ∈ (expectations operation).publicParams ↔ operation.stateBound) ∧
    ("root_lo" ∈ (expectations operation).publicParams ↔ operation.stateBound) := by
  cases operation <;> decide

/-- the word a proof for `operation` carries for the public name, by position -/
def pinnedWord (operation : Operation) (name : String) (words : List FieldValue) :
    Option FieldValue :=
  words[(expectations operation).publicNames.idxOf name]?

end Crucible
