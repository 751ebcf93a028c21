import Crucible.Lib.Utf8
import Crucible.Mock.Prover

/-!
# Proofs of the mock prover that have been changed (`crates/mock/src/verifier.rs`)

The last 32 bytes of a mock proof are the digest of the others.  A proof that keeps the digest and
changes what is in front of it, or the other way round, does not match itself.

* `MockVerifier.verify_mismatch`   what the verifier answers to a proof that does not match itself;
* `tampered_invalid`               so do the changed proofs of the prover, unless SHA-256 collides.
-/

namespace Crucible
open Checked Serde

/-! ## the two parts of a proof -/

/-- what is in front of the last 32 bytes -/
def payloadOf (bytes : List UInt8) : List UInt8 := bytes.take (bytes.length - 32)

/-- the last 32 bytes -/
def digestOf (bytes : List UInt8) : List UInt8 := bytes.drop (bytes.length - 32)

/-- the bytes that the digest of a payload is taken of -/
def signedBytes (key : String) (payload : List UInt8) : List UInt8 :=
  mockDomain ++ payload ++ key.toUTF8.data.toList ++ [0]

/-- something in front of the digest was changed, inserted or deleted -/
def KeepsDigest (original bytes : List UInt8) : Prop :=
  32 ≤ bytes.length ∧ digestOf bytes = digestOf original

/-- something in the digest was changed -/
def KeepsPayload (original bytes : List UInt8) : Prop :=
  bytes.length = original.length ∧ payloadOf bytes = payloadOf original

section
variable {original bytes : List UInt8}

theorem payloadOf_append_digestOf (bytes : List UInt8) : payloadOf bytes ++ digestOf bytes = bytes :=
  List.take_append_drop _ _

theorem parts_append {payload tail : List UInt8} (h : tail.length = 32) :
    payloadOf (payload ++ tail) = payload ∧ digestOf (payload ++ tail) = tail :=
  take_drop_append h

/-- a digest alone has nothing in front of it -/
theorem parts_of_length {tail : List UInt8} (h : tail.length = 32) :
    payloadOf tail = [] ∧ digestOf tail = tail := by
  unfold payloadOf digestOf
  rw [h, Nat.sub_self, List.take_zero, List.drop_zero]
  exact ⟨rfl, rfl⟩

theorem payload_ne_of_keepsDigest (h : KeepsDigest original bytes) (hne : bytes ≠ original) :
    payloadOf bytes ≠ payloadOf original := by
  intro heq
  apply hne
  rw [← payloadOf_append_digestOf bytes, heq, h.2, payloadOf_append_digestOf]

theorem digest_ne_of_keepsPayload (h : KeepsPayload original bytes) (hne : bytes ≠ original) :
    digestOf bytes ≠ digestOf original := by
  intro heq
  apply hne
  rw [← payloadOf_append_digestOf bytes, heq, h.2, payloadOf_append_digestOf]

theorem signedBytes_injective {key : String} {payload payload' : List UInt8}
    (h : signedBytes key payload = signedBytes key payload') : payload = payload' := by
  unfold signedBytes at h
  have hkey := List.append_cancel_right (List.append_cancel_right h)
  exact List.append_cancel_left hkey

end

/-! ## what the verifier answers -/

section
variable {sha256 : List UInt8 → List UInt8} {text : JsonText} {key : String}

/-- a mock proof that does not match itself is answered before its envelope is read -/
theorem MockVerifier.verify_mismatch {crates : MockCrates} {v : MockVerifier}
    {r : VerificationRequest}
    (hroute : r.proof.format.tag = mockFormat ∧ r.backend.id = BackendId.mock)
    (hbytes : digestOf r.proof.bytes ≠ crates.sha256 (signedBytes v.key (payloadOf r.proof.bytes))) :
    v.verify crates r = .ok (.rejected .invalidProof) := by
  unfold verify checks
  rw [ensure_pos hroute]
  by_cases hlen : 32 ≤ r.proof.bytes.length
  · rw [ensure_pos hlen]
    have hdigest : ¬ (r.proof.bytes.drop (r.proof.bytes.length - 32)
        = v.digest crates (r.proof.bytes.take (r.proof.bytes.length - 32))) := hbytes
    show conclude (ensure (r.proof.bytes.drop (r.proof.bytes.length - 32)
        = v.digest crates (r.proof.bytes.take (r.proof.bytes.length - 32)))
      (.rejected .invalidProof) >>= _) = _
    rw [ensure_neg hdigest]
    rfl
  · rw [ensure_neg hlen]
    rfl

/-- the proof of a response is the text of its context, and matches itself -/
theorem MockProver.parts_of_generate {r : ProofRequest} {response : ProofResponse}
    (hsha : ∀ bytes, (sha256 bytes).length = 32)
    (hgen : (MockProver.mk key).generate sha256 text r = .ok response) :
    payloadOf response.proof.bytes
        = text.write (toJson (MockVerifier.envelopeOf (.fromResponse response))) ∧
      digestOf response.proof.bytes
        = sha256 (signedBytes key (payloadOf response.proof.bytes)) := by
  have hbytes := congrArg ProofBlob.bytes (proof_of_generate hgen).1
  let payload := text.write (toJson (MockVerifier.envelopeOf (.fromResponse response)))
  have hblob : response.proof.bytes = payload ++ sha256 (signedBytes key payload) := hbytes
  obtain ⟨hpayload, hdigest⟩ := parts_append (hsha (signedBytes key payload))
  rw [hblob, hpayload, hdigest]
  exact ⟨rfl, rfl⟩

/-- the request for a response, with other bytes for its proof -/
def withBytes (response : ProofResponse) (bytes : List UInt8) : VerificationRequest :=
  { VerificationRequest.fromResponse response with
    proof := { response.proof with bytes := bytes } }

/-- **A proof of the mock prover that has been changed is an invalid proof**, and nothing else: a
proof with other bytes in front of its digest, of any length, or with another digest behind them. -/
theorem tampered_invalid {r : ProofRequest} {response : ProofResponse} {bytes : List UInt8}
    (hsha : ∀ bytes, (sha256 bytes).length = 32)
    (hgen : (MockProver.mk key).generate sha256 text r = .ok response)
    (hcoll : sha256 (signedBytes key (payloadOf bytes))
        = sha256 (signedBytes key (payloadOf response.proof.bytes)) →
      signedBytes key (payloadOf bytes) = signedBytes key (payloadOf response.proof.bytes))
    (hne : bytes ≠ response.proof.bytes)
    (htamper : KeepsDigest response.proof.bytes bytes ∨ KeepsPayload response.proof.bytes bytes) :
    (MockVerifier.mk key).verify (.of sha256 text) (withBytes response bytes)
      = .ok (.rejected .invalidProof) := by
  obtain ⟨hproof, hbackend⟩ := MockProver.proof_of_generate hgen
  have hmatch := (MockProver.parts_of_generate hsha hgen).2
  apply MockVerifier.verify_mismatch
  · refine ⟨?_, congrArg BackendId.id hbackend⟩
    exact congrArg (fun p => p.format.tag) hproof
  · show digestOf bytes ≠ sha256 (signedBytes key (payloadOf bytes))
    intro hself
    rcases htamper with hkeeps | hkeeps
    · have hcollides := (hself.symm.trans hkeeps.2).trans hmatch
      exact payload_ne_of_keepsDigest hkeeps hne (signedBytes_injective (hcoll hcollides))
    · rw [hkeeps.2, ← hmatch] at hself
      exact digest_ne_of_keepsPayload hkeeps hne hself

end

/-! ## a run -/

/-- the digests of the run of the prover, and that of the empty payload -/
def emptiedSha256 (bytes : List UInt8) : List UInt8 :=
  if bytes = signedBytes defaultMockKey [] then
    [0xaa, 0x5b, 0x64, 0xf8, 0xbc, 0x09, 0xf7, 0x4c, 0x1b, 0xa1, 0x48, 0x5a, 0x32, 0x10, 0xcb, 0x76,
      0x3a, 0xd4, 0xb4, 0x57, 0x93, 0x65, 0xe5, 0x7f, 0x9a, 0x57, 0x05, 0xd7, 0x91, 0x53, 0xa6, 0x62]
  else transferSha256 bytes

theorem emptiedSha256_length (bytes : List UInt8) : (emptiedSha256 bytes).length = 32 := by
  unfold emptiedSha256
  split
  · rfl
  · exact transferSha256_length bytes

def emptiedResponse : ProofResponse :=
  MockProver.new.respond emptiedSha256 transferText transferZeros ⟨"mock-vk/transfer/0.1.0"⟩

/-- the proof of a transfer with nothing in front of its digest -/
theorem tampered_invalid_emptied :
    MockVerifier.new.verify (.of emptiedSha256 transferText)
      (withBytes emptiedResponse (digestOf emptiedResponse.proof.bytes))
        = .ok (.rejected .invalidProof) := by
  have hgen : MockProver.new.generate emptiedSha256 transferText transferZeros
      = .ok emptiedResponse := by
    have hvalid := (MockProver.generate_ok.mp transferZeros_generate).1
    refine MockProver.generate_ok.mpr ⟨hvalid, rfl, _, ?_, rfl⟩
    decide
  let bytes := emptiedResponse.proof.bytes
  obtain ⟨hpayload, hdigest⟩ := MockProver.parts_of_generate emptiedSha256_length hgen
  have hlen : (digestOf bytes).length = 32 := by
    rw [hdigest]
    exact emptiedSha256_length _
  obtain ⟨hnone, hsame⟩ := parts_of_length hlen
  have hne : payloadOf bytes ≠ [] := by
    rw [hpayload]
    exact Utf8.toUTF8_ne_nil (transferText_render _)
  have hcoll : emptiedSha256 (signedBytes defaultMockKey (payloadOf (digestOf bytes)))
      ≠ emptiedSha256 (signedBytes defaultMockKey (payloadOf bytes)) := by
    have hother : ¬ (signedBytes defaultMockKey (payloadOf bytes) = signedBytes defaultMockKey []) :=
      fun h => hne (signedBytes_injective h)
    rw [hnone, emptiedSha256, emptiedSha256, if_pos rfl, if_neg hother, transferSha256]
    split <;> exact fun h => absurd (List.head_eq_of_cons_eq h) (by decide)
  refine tampered_invalid emptiedSha256_length hgen (fun h => absurd h hcoll) ?_
    (Or.inl ⟨hlen.ge, hsame⟩)
  intro heq
  exact hcoll (by rw [heq])

end Crucible
