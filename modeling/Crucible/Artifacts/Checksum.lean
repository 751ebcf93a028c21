import Crucible.Artifacts.Contained
import Crucible.Lib.Framing
import Crucible.Lib.Hex

/-!
# The checksum of an artifact tree (`crates/artifacts/src/checksum.rs`)

The hasher is fed the path and the digest of each entry, each ended by a zero byte.

* `artifactChecksum`           the digest of the hasher's digest, as the function has it;
* `entryBytes_selfDelimiting`  no safe path and no digest holds a zero byte;
* `artifactChecksum_eq_iff`    so the checksum says which entries there are, in which order.
-/

namespace Crucible
open Checked Text Framing Framing.SelfDelimiting

/-- what the hasher has been fed after the loop -/
def treeBytes (entries : List (String × ArtifactChecksum)) : List UInt8 :=
  entries.foldl (fun hasher e => hasher ++ e.1.toUTF8.data.toList ++ [0] ++
    e.2.hex.toUTF8.data.toList ++ [0]) []

/-- `artifact_checksum` -/
def artifactChecksum (sha256 : List UInt8 → List UInt8)
    (entries : List (String × ArtifactChecksum)) : ArtifactChecksum :=
  .fromBytes sha256 (sha256 (treeBytes entries))

/-- what an entry adds to the hasher -/
def entryBytes (e : String × ArtifactChecksum) : List UInt8 :=
  e.1.toUTF8.data.toList ++ [0] ++ (e.2.hex.toUTF8.data.toList ++ [0])

theorem treeBytes_eq (entries : List (String × ArtifactChecksum)) :
    treeBytes entries = entries.flatMap entryBytes := by
  have hstep (hasher : List UInt8) (e : String × ArtifactChecksum) :
      hasher ++ e.1.toUTF8.data.toList ++ [0] ++ e.2.hex.toUTF8.data.toList ++ [0]
        = hasher ++ entryBytes e := by
    simp only [entryBytes, List.append_assoc]
  simp only [treeBytes, hstep]
  rw [List.foldl_append_eq_append, List.nil_append, List.flatMap_def]

theorem entryBytes_ne_nil (e : String × ArtifactChecksum) : entryBytes e ≠ [] := by
  unfold entryBytes
  exact List.append_ne_nil_of_right_ne_nil _ (List.append_ne_nil_of_right_ne_nil _ (by decide))

/-! ## the entries are read off -/

/-- an entry of a manifest: a safe path and a digest -/
def IsEntry (e : String × ArtifactChecksum) : Prop :=
  isSafeRelativePath e.1 ∧ IsDigestText e.2.hex

theorem zero_not_mem_path {path : String} (h : isSafeRelativePath path) :
    0 ∉ path.toUTF8.data.toList := by
  simp only [isSafeRelativePath, Bool.and_eq_true, List.all_eq_true, decide_eq_true_eq] at h
  exact Utf8.zero_not_mem_toUTF8 h.1.2

theorem zero_not_mem_digest {hex : String} (h : IsDigestText hex) :
    0 ∉ hex.toUTF8.data.toList := by
  refine Utf8.zero_not_mem_toUTF8 fun c hc hzero => ?_
  have hdigit := List.all_eq_true.mp h.2 c hc
  rw [Char.toNat_inj.mp (hzero.trans (show 0 = '\x00'.toNat from rfl))] at hdigit
  exact absurd hdigit (by decide)

theorem entryBytes_selfDelimiting : SelfDelimiting IsEntry entryBytes := by
  have hparts : Function.Injective fun e : String × ArtifactChecksum =>
      (e.1.toUTF8.data.toList, e.2.hex.toUTF8.data.toList) := by
    rintro ⟨path, ⟨hex⟩⟩ ⟨path', ⟨hex'⟩⟩ h
    obtain ⟨hpath, hhex⟩ := Prod.mk.inj h
    cases Utf8.toUTF8_injective hpath
    cases Utf8.toUTF8_injective hhex
    rfl
  exact (((terminated 0).pair (terminated 0)).comap hparts).mono
    fun e he => ⟨zero_not_mem_path he.1, zero_not_mem_digest he.2⟩

theorem eq_of_treeBytes {entries entries' : List (String × ArtifactChecksum)}
    (hentries : ∀ e ∈ entries, IsEntry e) (hentries' : ∀ e ∈ entries', IsEntry e)
    (h : treeBytes entries = treeBytes entries') : entries = entries' := by
  rw [treeBytes_eq, treeBytes_eq] at h
  exact entryBytes_selfDelimiting.flatMap_inj (fun e _ => entryBytes_ne_nil e) hentries hentries' h

/-! ## digests -/

/-- no digest stands for two of the inputs -/
def CollisionFree (sha256 : List UInt8 → List UInt8) (inputs : List (List UInt8)) : Prop :=
  ∀ x ∈ inputs, ∀ y ∈ inputs, sha256 x = sha256 y → x = y

/-- what `artifact_checksum` gives to SHA-256: the tree, and its digest -/
def hashInputs (sha256 : List UInt8 → List UInt8) (entries : List (String × ArtifactChecksum)) :
    List (List UInt8) :=
  [treeBytes entries, sha256 (treeBytes entries)]

theorem treeBytes_of_checksum {sha256 : List UInt8 → List UInt8}
    {entries entries' : List (String × ArtifactChecksum)}
    (hsha : CollisionFree sha256 (hashInputs sha256 entries ++ hashInputs sha256 entries'))
    (h : artifactChecksum sha256 entries = artifactChecksum sha256 entries') :
    treeBytes entries = treeBytes entries' := by
  have houter : sha256 (sha256 (treeBytes entries)) = sha256 (sha256 (treeBytes entries')) :=
    hexEncode_injective (ArtifactChecksum.mk.inj h)
  have hinner : sha256 (treeBytes entries) = sha256 (treeBytes entries') :=
    hsha _ (by simp [hashInputs]) _ (by simp [hashInputs]) houter
  exact hsha _ (by simp [hashInputs]) _ (by simp [hashInputs]) hinner

/-- **The tree checksum binds every path and every digest, and their order**, where SHA-256 has no
collision among what the two trees feed it. -/
theorem artifactChecksum_eq_iff {sha256 : List UInt8 → List UInt8}
    {entries entries' : List (String × ArtifactChecksum)} (hentries : ∀ e ∈ entries, IsEntry e)
    (hentries' : ∀ e ∈ entries', IsEntry e)
    (hsha : CollisionFree sha256 (hashInputs sha256 entries ++ hashInputs sha256 entries')) :
    artifactChecksum sha256 entries = artifactChecksum sha256 entries' ↔ entries = entries' := by
  constructor
  · intro h
    exact eq_of_treeBytes hentries hentries' (treeBytes_of_checksum hsha h)
  · intro h
    rw [h]

/-! ## a renamed file -/

def sampleTree : List (String × ArtifactChecksum) :=
  [("acir.msgpack", ⟨String.ofList (List.replicate 64 'a')⟩),
    ("vk.bin", ⟨String.ofList (List.replicate 64 'b')⟩)]

/-- the second file under another name -/
def renamedTree : List (String × ArtifactChecksum) :=
  [("acir.msgpack", ⟨String.ofList (List.replicate 64 'a')⟩),
    ("other/vk.bin", ⟨String.ofList (List.replicate 64 'b')⟩)]

def treeDigest : List UInt8 :=
  [0xd5, 0x84, 0x5b, 0x6b, 0x39, 0x50, 0xee, 0x2b, 0x7f, 0x6c, 0x46, 0x39, 0xd8, 0xe8,
    0xb4, 0xf9, 0xfd, 0x58, 0x0d, 0xfb, 0xe4, 0xab, 0x31, 0x46, 0xda, 0xb6, 0x39, 0x00,
    0xbc, 0x4d, 0x98, 0x93]

def renamedDigest : List UInt8 :=
  [0x60, 0x5f, 0x72, 0x45, 0x91, 0x70, 0x51, 0x5a, 0xfd, 0x18, 0x6d, 0xf8, 0xe2, 0x0d,
    0x2e, 0xb9, 0x7c, 0x82, 0x49, 0x4c, 0x8e, 0x79, 0x59, 0xb0, 0xd1, 0x4d, 0x9f, 0x2d,
    0x07, 0x6d, 0x83, 0xcc]

/-- the digests of the two trees, and of their digests -/
def treeSha256 (bytes : List UInt8) : List UInt8 :=
  if bytes = treeBytes sampleTree then treeDigest
  else if bytes = treeBytes renamedTree then renamedDigest
  else if bytes = treeDigest then
    [0x24, 0xb5, 0x9b, 0xe8, 0x15, 0x50, 0xc6, 0x14, 0x04, 0xca, 0x7e, 0xbf, 0xf5, 0xc8,
      0xd9, 0x6d, 0x0f, 0x78, 0x65, 0xb4, 0x3d, 0x8b, 0x04, 0xc1, 0x64, 0xb7, 0x92, 0xa5,
      0xff, 0xbd, 0xd2, 0xae]
  else
    [0x24, 0x4c, 0xd0, 0x67, 0xd2, 0x9b, 0x0f, 0xfa, 0x30, 0x5e, 0xb5, 0xc2, 0x46, 0x18,
      0xf0, 0xb9, 0x80, 0x94, 0xcc, 0x20, 0xcf, 0xe9, 0x30, 0xd3, 0xde, 0x30, 0x7f, 0x82,
      0x6b, 0xc3, 0x96, 0x4b]

theorem artifactChecksum_eq_iff_renamed :
    artifactChecksum treeSha256 sampleTree = artifactChecksum treeSha256 renamedTree ↔
      sampleTree = renamedTree := by
  refine artifactChecksum_eq_iff ?_ ?_ ?_
  · unfold IsEntry IsDigestText
    decide +kernel
  · unfold IsEntry IsDigestText
    decide +kernel
  · unfold CollisionFree
    decide +kernel

end Crucible
