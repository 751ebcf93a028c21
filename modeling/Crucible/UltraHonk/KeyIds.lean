import Crucible.UltraHonk.Store

/-!
# How key ids are spelled (`crates/ultrahonk/src/vk.rs`)

A key id is read tolerantly and written in one way.

* `VerificationKeyIdPolicy.idFor_eq_iff`   the ids that are written as they were read;
* `key_ids_canonical`                      every key has one plain id, which is read back, and every
                                           other id of the key is spelled otherwise.
-/

namespace Crucible
open Checked Text

/-! ## digests -/

/-- 64 lower-case digits -/
def PlainDigest (cs : List Char) : Prop := cs.length = 64 ∧ cs.all isLowerHex

instance (cs : List Char) : Decidable (PlainDigest cs) := inferInstanceAs (Decidable (_ ∧ _))

theorem ArtifactChecksum.fromHex_plain {digest : String} {hash : ArtifactChecksum}
    (h : fromHex digest = some hash) : PlainDigest hash.hex.toList := by
  obtain ⟨hex, hdigest, rfl⟩ := Option.map_eq_some_iff.mp h
  exact digest256_wellFormed hdigest

theorem ArtifactChecksum.fromHex_of_plain {digest : String} (h : PlainDigest digest.toList) :
    fromHex digest = some ⟨digest⟩ := by
  unfold fromHex
  rw [digest256_of_lower h.1 h.2]
  rfl

/-- the texts that are a checksum's own are those with 64 lower-case digits -/
theorem ArtifactChecksum.hex_eq_iff {digest : String} {hash : ArtifactChecksum}
    (h : fromHex digest = some hash) : hash.hex = digest ↔ PlainDigest digest.toList := by
  constructor
  · intro heq
    rw [← heq]
    exact fromHex_plain h
  · intro hplain
    rw [fromHex_of_plain hplain] at h
    rw [← Option.some.inj h]

/-! ## ids -/

/-- the id is spelled plainly: three plain numbers, and 64 lower-case digits -/
def PlainId (id : String) : Prop :=
  ∃ circuit version digest, split '/' id = [vkScheme, circuit, version, digest] ∧
    (∀ part ∈ split '.' version, PlainDecimal part.toList) ∧ PlainDigest digest.toList

namespace VerificationKeyIdPolicy
variable {id : String} {circuit : CircuitId} {version : Version} {hash : ArtifactChecksum}

/-- what is read from an id is what an id can be formed from -/
theorem parse_idFor_of_parse (h : parse id = .ok (circuit, version, hash)) :
    parse (idFor circuit version hash) = .ok (circuit, version, hash) := by
  obtain ⟨_, _, _, hcircuit, _, hhash⟩ := parse_ok.mp h
  exact parse_idFor hcircuit (ArtifactChecksum.fromHex_of_plain (ArtifactChecksum.fromHex_plain hhash))

/-- **An id is written as it was read exactly when it is spelled plainly.** -/
theorem idFor_eq_iff (h : parse id = .ok (circuit, version, hash)) :
    idFor circuit version hash = id ↔ PlainId id := by
  obtain ⟨text, digest, hsplit, hcircuit, hversion, hhash⟩ := parse_ok.mp h
  have hwritten : split '/' (idFor circuit version hash)
      = [vkScheme, circuit.id, version.display, hash.hex] :=
    split_idFor hcircuit (ArtifactChecksum.fromHex_of_plain (ArtifactChecksum.fromHex_plain hhash))
  constructor
  · intro heq
    rw [heq, hsplit] at hwritten
    obtain ⟨hdisplay, hdigest⟩ : text = version.display ∧ digest = hash.hex := by
      simpa using hwritten
    refine ⟨circuit.id, text, digest, hsplit, ?_, ?_⟩
    · exact (Version.display_eq_iff hversion).mp hdisplay.symm
    · exact (ArtifactChecksum.hex_eq_iff hhash).mp hdigest.symm
  · intro hplain
    obtain ⟨circuit', text', digest', hsplit', hnumbers, hdigest⟩ := hplain
    obtain ⟨rfl, rfl, rfl⟩ : circuit.id = circuit' ∧ text = text' ∧ digest = digest' := by
      simpa using hsplit.symm.trans hsplit'
    refine split_injective (c := '/') ?_
    rw [hwritten, hsplit, (Version.display_eq_iff hversion).mpr hnumbers,
      (ArtifactChecksum.hex_eq_iff hhash).mpr hdigest]

end VerificationKeyIdPolicy

open VerificationKeyIdPolicy

/-- **Plain key ids are canonical.**  An id is read back as the parts it was formed from; an id that
is read is formed again exactly when it is spelled plainly, and otherwise a plain id of the same key
is; and two plain ids of one key are one. -/
theorem key_ids_canonical :
    (∀ circuit version hash, CircuitId.new circuit.id = .ok circuit →
      ArtifactChecksum.fromHex hash.hex = some hash →
      parse (idFor circuit version hash) = .ok (circuit, version, hash)) ∧
    (∀ id circuit version hash, parse id = .ok (circuit, version, hash) →
      (idFor circuit version hash = id ↔ PlainId id) ∧ PlainId (idFor circuit version hash) ∧
        parse (idFor circuit version hash) = parse id) ∧
    ∀ id id' key, parse id = .ok key → parse id' = .ok key → PlainId id → PlainId id' →
      id = id' := by
  refine ⟨fun circuit version hash => parse_idFor, ?_, ?_⟩
  · intro id circuit version hash h
    have hback := parse_idFor_of_parse h
    refine ⟨idFor_eq_iff h, ?_, hback.trans h.symm⟩
    exact (idFor_eq_iff hback).mp rfl
  · intro id id' key h h' hplain hplain'
    obtain ⟨circuit, version, hash⟩ := key
    rw [← (idFor_eq_iff h).mpr hplain, ← (idFor_eq_iff h').mpr hplain']

/-- an id with a leading zero is another id of the same key -/
theorem leading_zero_other_id :
    parse "uhk/transfer/00.1.0/abababababababababababababababababababababababababababababababab"
      = .ok (⟨"transfer"⟩, ⟨0, 1, 0⟩,
        ⟨"abababababababababababababababababababababababababababababababab"⟩) ∧
    idFor ⟨"transfer"⟩ ⟨0, 1, 0⟩
        ⟨"abababababababababababababababababababababababababababababababab"⟩
      ≠ "uhk/transfer/00.1.0/abababababababababababababababababababababababababababababababab" := by
  refine ⟨parse_ok.mpr ?_, by decide +kernel⟩
  refine ⟨"00.1.0", "abababababababababababababababababababababababababababababababab", ?_, ?_, ?_, ?_⟩
  · decide +kernel
  · rfl
  · decide +kernel
  · decide +kernel

end Crucible
