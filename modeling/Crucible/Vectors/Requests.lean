import Crucible.Interfaces.Numbers
import Crucible.Vectors.Vector

/-!
# The requests that vectors stand for (`crates/vectors/src/lib.rs`)

Loading a vector and assembling its request each check names and roots, but not the same ones.

* `RawBag.intoBag_ok`, `RawWitness.intoWitness_ok`   what canonicalization keeps;
* `TestVector.load_ok`          what a loaded vector was read from;
* `toRequestFor_some`           when a vector has a request, and which;
* `vector_request_iff`          the files whose vectors stand for well-formed requests.
-/

namespace Crucible
open Checked Text Serde

/-! ## canonicalization -/

/-- a value read from its text -/
def ReadsField (raw : String × String) (entry : String × FieldValue) : Prop :=
  entry.1 = raw.1 ∧ FieldValue.fromHex raw.2 = .ok entry.2

/-- a secret, canonicalized -/
def CanonicalSecret (raw entry : String × String) : Prop :=
  entry.1 = raw.1 ∧ ∃ value, SecretValue.fromHex raw.2 = .ok value ∧ entry.2 = value.intoHex

/-- public values are read one by one -/
theorem insertPublic_foldlM {context : String} {es : List (String × String)}
    {b bag : PublicInputBag} (hb : b.WellFormed)
    (h : es.foldlM (insertPublic context) b = .ok bag) : bag.WellFormed ∧
      ∃ added, bag.entries = b.entries ++ added ∧ List.Forall₂ ReadsField es added := by
  refine foldlM_appends Bag.entries (fun b _ => b.WellFormed) ?_ hb h
  intro b e _ next hb hnext
  obtain ⟨value, hvalue, hinsert⟩ := bind_ok.mp hnext
  have hinsert : b.insert e.1 value = .ok next := mapError_ok.mp hinsert
  obtain ⟨_, _, hentries⟩ := Bag.insert_ok.mp hinsert
  exact ⟨Bag.insert_wellFormed hb hinsert, (e.1, value), ⟨rfl, mapError_ok.mp hvalue⟩,
    congrArg Bag.entries hentries⟩

theorem RawBag.intoBag_ok {raw : RawBag} {context : String} {bag : PublicInputBag}
    (h : raw.intoBag context = .ok bag) :
    bag.WellFormed ∧ List.Forall₂ ReadsField raw.entries bag.entries := by
  obtain ⟨hbag, added, hentries, hread⟩ := insertPublic_foldlM Bag.new_wellFormed h
  refine ⟨hbag, ?_⟩
  rw [hentries]
  exact hread

/-- secrets are canonicalized one by one, in the order of their names -/
theorem insertPrivate_foldlM {context : String} {es : List (String × String)}
    {m m' : SortedMap String String} (hsorted : ((m.entries ++ es).map Prod.fst).Pairwise (· < ·))
    (h : es.foldlM (insertPrivate context) m = .ok m') :
    ∃ added, m'.entries = m.entries ++ added ∧ List.Forall₂ CanonicalSecret es added := by
  refine (foldlM_appends SortedMap.entries
    (fun m es => ((m.entries ++ es).map Prod.fst).Pairwise (· < ·)) ?_ hsorted h).2
  intro m e es next hsorted hnext
  obtain ⟨value, hvalue, hnext⟩ := bind_ok.mp hnext
  obtain rfl := pure_ok.mp hnext
  have hlast : (m.insert e.1 value.intoHex).entries = m.entries ++ [(e.1, value.intoHex)] := by
    refine SortedMap.insert_last fun k hk => ?_
    rw [List.map_append, List.pairwise_append] at hsorted
    exact hsorted.2.2 k hk e.1 List.mem_cons_self
  refine ⟨?_, (e.1, value.intoHex), ⟨rfl, value, mapError_ok.mp hvalue, rfl⟩, hlast⟩
  rw [hlast]
  simpa using hsorted

theorem RawWitness.intoWitness_ok {raw : RawWitness} {context : String} {w : Witness}
    (h : raw.intoWitness context = .ok w) :
    List.Forall₂ CanonicalSecret raw.priv.entries w.priv.entries ∧ w.pub.WellFormed ∧
      List.Forall₂ ReadsField raw.pub.entries w.pub.entries := by
  simp only [RawWitness.intoWitness, bind_ok, pure_ok] at h
  obtain ⟨priv, hpriv, pub, hpub, rfl⟩ := h
  have hsorted : ((SortedMap.empty.entries ++ raw.priv.entries).map Prod.fst).Pairwise (· < ·) :=
    raw.priv.sorted
  obtain ⟨added, hentries, hsecrets⟩ := insertPrivate_foldlM hsorted hpriv
  obtain ⟨hwf, hread⟩ := RawBag.intoBag_ok hpub
  refine ⟨?_, hwf, hread⟩
  show List.Forall₂ CanonicalSecret raw.priv.entries priv.entries
  rw [hentries]
  exact hsecrets

/-- names are kept -/
theorem CanonicalSecret.keys {raws entries : List (String × String)}
    (h : List.Forall₂ CanonicalSecret raws entries) : entries.map Prod.fst = raws.map Prod.fst :=
  map_eq_of_forall₂ (h.imp fun _ _ h => h.1)

/-! ## loading -/

namespace TestVector

theorem load_ok {text : JsonText} {path : String} {content : Except String (List UInt8)}
    {v : TestVector} (h : load text path content = .ok v) :
    ∃ bytes json raw context, content = .ok bytes ∧ text.parse bytes = .ok json ∧
      (fromJson json : Except String RawVector) = .ok raw ∧
      raw.witness.intoWitness context = .ok v.witness ∧ v.operation = raw.operation ∧
      v.stateReference = raw.stateReference ∧ v.validateStructure = .ok () := by
  simp only [load, bind_ok, mapError_ok, pure_ok] at h
  obtain ⟨bytes, hbytes, json, hjson, raw, hraw, witness, hwitness, outputs, _, _, hvalid, rfl⟩ := h
  exact ⟨bytes, json, raw, _, hbytes, hjson, hraw, hwitness, rfl, rfl, hvalid⟩

theorem validateStructure_ok {v : TestVector} (h : v.validateStructure = .ok ()) :
    v.witness.priv.entries ≠ [] ∧ (v.operation.stateBound → v.validateRoot = .ok ()) := by
  simp only [validateStructure, bind_ok, ensure_ok, ensureAll_ok, exists_const] at h
  obtain ⟨_, _, _, hpriv, _, _, _, _, hroot, _⟩ := h
  refine ⟨hpriv, fun hbound => ?_⟩
  rwa [if_pos hbound] at hroot

theorem validateRoot_ok {v : TestVector} (h : v.validateRoot = .ok ()) :
    ∃ state hi lo, v.stateReference = some state ∧ state.rootHalves = some (hi, lo) ∧
      v.witness.pub.get "root_hi" = some hi ∧ v.witness.pub.get "root_lo" = some lo := by
  simp only [validateRoot, bind_ok, ensure_ok, fromOption_ok, exists_const] at h
  obtain ⟨state, hstate, ⟨hi, lo⟩, hhalves, hiEntry, hhi, loEntry, hlo, rfl, rfl⟩ := h
  exact ⟨state, hiEntry, loEntry, hstate, hhalves, hhi, hlo⟩

end TestVector

/-! ## requests -/

theorem PrivateWitnessBag.insert_ok {b b' : PrivateWitnessBag} {name : String}
    {value : SecretValue} :
    b.insert name value = .ok b' ↔ b.bag.insert name value = .ok b'.bag := by
  refine ⟨fun h => ?_, fun h => ?_⟩
  · unfold PrivateWitnessBag.insert at h
    split at h
    · next bag hbag =>
      obtain rfl := Except.ok.inj h
      exact hbag
    · cases h
  · unfold PrivateWitnessBag.insert
    split
    · next bag hbag =>
      obtain rfl : bag = b'.bag := Except.ok.inj (hbag.symm.trans h)
      rfl
    · next e he =>
      rw [he] at h
      cases h

/-- the texts of the secrets, by name -/
def PrivateWitnessBag.texts (b : PrivateWitnessBag) : List (String × String) :=
  b.bag.entries.map fun e => (e.1, e.2.intoHex)

theorem PrivateWitnessBag.texts_names (b : PrivateWitnessBag) : b.texts.map Prod.fst = b.names := by
  rw [texts, List.map_map]
  rfl

theorem SecretValue.fromHex_intoHex (value : SecretValue) :
    SecretValue.fromHex value.intoHex = .ok value :=
  bind_ok.mpr ⟨value.value, value.value.fromHex_hex, rfl⟩

namespace TestVector
variable {b b' : PrivateWitnessBag} {es : List (String × String)}

/-- the texts are those of canonical values -/
def Canonicalized (es : List (String × String)) : Prop :=
  ∀ e ∈ es, ∃ value : SecretValue, e.2 = value.intoHex

theorem insertSecret_eq {name : String} {value : SecretValue} :
    insertSecret b (name, value.intoHex) = (b.insert name value).toOption := by
  show ((SecretValue.fromHex value.intoHex).toOption.bind fun v => (b.insert name v).toOption) = _
  rw [SecretValue.fromHex_intoHex]
  rfl

theorem insertSecret_some {name : String} {value : SecretValue}
    (h : insertSecret b (name, value.intoHex) = some b') :
    validateName name = .ok () ∧ b'.texts = b.texts ++ [(name, value.intoHex)] := by
  rw [insertSecret_eq] at h
  cases hinsert : b.insert name value with
  | error e =>
    rw [hinsert] at h
    cases h
  | ok b₁ =>
    rw [hinsert] at h
    obtain rfl := Option.some.inj h
    obtain ⟨hvalid, _, hbag⟩ := Bag.insert_ok.mp (PrivateWitnessBag.insert_ok.mp hinsert)
    refine ⟨hvalid, ?_⟩
    rw [PrivateWitnessBag.texts, hbag, List.map_append]
    rfl

theorem insertSecret_new {name : String} {value : SecretValue}
    (hvalid : validateName name = .ok ()) (hnew : name ∉ b.names) :
    ∃ b', insertSecret b (name, value.intoHex) = some b' := by
  have hwf : Bag.WellFormed ⟨b.bag.entries ++ [(name, value)]⟩ :=
    Bag.append_wellFormed b.wellFormed hvalid hnew
  have hinsert : b.insert name value = .ok ⟨⟨b.bag.entries ++ [(name, value)]⟩, hwf⟩ :=
    PrivateWitnessBag.insert_ok.mpr (Bag.insert_new hvalid hnew)
  refine ⟨⟨⟨b.bag.entries ++ [(name, value)]⟩, hwf⟩, ?_⟩
  rw [insertSecret_eq, hinsert]
  rfl

/-- what the secrets of a request are -/
theorem insertSecrets_some (hcanonical : Canonicalized es)
    (h : es.foldlM insertSecret b = some b') :
    (∀ e ∈ es, validateName e.1 = .ok ()) ∧ b'.texts = b.texts ++ es := by
  induction es generalizing b with
  | nil =>
    obtain rfl := Option.some.inj h
    exact ⟨fun _ he => absurd he List.not_mem_nil, (List.append_nil _).symm⟩
  | cons e es ih =>
    obtain ⟨name, _⟩ := e
    obtain ⟨value, rfl⟩ := hcanonical _ List.mem_cons_self
    rw [List.foldlM_cons] at h
    obtain ⟨b₁, hnext, h⟩ := Option.bind_eq_some_iff.mp h
    obtain ⟨hvalid, htexts⟩ := insertSecret_some hnext
    obtain ⟨hall, htexts'⟩ := ih (fun e he => hcanonical e (List.mem_cons_of_mem _ he)) h
    refine ⟨fun e he => ?_, ?_⟩
    · rcases List.mem_cons.mp he with rfl | he
      · exact hvalid
      · exact hall e he
    · rw [htexts', htexts, List.append_assoc, List.singleton_append]

/-- secrets with valid and distinct names make up a request -/
theorem insertSecrets_of_valid (hcanonical : Canonicalized es)
    (hvalid : ∀ e ∈ es, validateName e.1 = .ok ())
    (hnodup : (b.names ++ es.map Prod.fst).Nodup) : ∃ b', es.foldlM insertSecret b = some b' := by
  induction es generalizing b with
  | nil => exact ⟨b, rfl⟩
  | cons e es ih =>
    obtain ⟨name, _⟩ := e
    obtain ⟨value, rfl⟩ := hcanonical _ List.mem_cons_self
    have hnew : name ∉ b.names := fun hmem =>
      (List.nodup_append.mp hnodup).2.2 name hmem name List.mem_cons_self rfl
    obtain ⟨b₁, hnext⟩ : ∃ b₁, insertSecret b (name, value.intoHex) = some b₁ :=
      insertSecret_new (hvalid _ List.mem_cons_self) hnew
    have hnames : b₁.names = b.names ++ [name] := by
      rw [← b₁.texts_names, (insertSecret_some hnext).2, List.map_append, b.texts_names]
      rfl
    have hnodup' : (b₁.names ++ es.map Prod.fst).Nodup := by
      rw [hnames, List.append_assoc]
      exact hnodup
    obtain ⟨b', hrest⟩ := ih (fun e he => hcanonical e (List.mem_cons_of_mem _ he))
      (fun e he => hvalid e (List.mem_cons_of_mem _ he)) hnodup'
    refine ⟨b', ?_⟩
    rw [List.foldlM_cons, hnext]
    exact hrest

theorem toRequestFor_some {v : TestVector} {backend : String} {r : ProofRequest}
    (h : v.toRequestFor backend = some r) :
    v.witness.priv.entries.foldlM insertSecret PrivateWitnessBag.new = some r.witness := by
  obtain ⟨witness, hwitness, h⟩ := Option.bind_eq_some_iff.mp h
  obtain ⟨_, _, h⟩ := Option.bind_eq_some_iff.mp h
  obtain rfl := Option.some.inj h
  exact hwitness

/-- the parts of a request that come from the vector -/
theorem toRequestFor_parts {v : TestVector} {backend : String} {r : ProofRequest}
    (h : v.toRequestFor backend = some r) : r.operation = v.operation ∧
      r.publicInputs = v.witness.pub ∧ r.stateReference = v.stateReference := by
  obtain ⟨_, _, h⟩ := Option.bind_eq_some_iff.mp h
  obtain ⟨_, _, h⟩ := Option.bind_eq_some_iff.mp h
  obtain rfl := Option.some.inj h
  exact ⟨rfl, rfl, rfl⟩

theorem toRequestFor_of_secrets {v : TestVector} {backend : String} {id : BackendId}
    {witness : PrivateWitnessBag} (hbackend : BackendId.new backend = .ok id)
    (h : v.witness.priv.entries.foldlM insertSecret PrivateWitnessBag.new = some witness) :
    ∃ r, v.toRequestFor backend = some r := by
  have htoOption : (BackendId.new backend).toOption = some id := by rw [hbackend]; rfl
  unfold toRequestFor
  rw [h, htoOption]
  exact ⟨_, rfl⟩

/-- the request is there and well-formed, and has the values of the vector -/
def StandsFor (v : TestVector) (request : Option ProofRequest) : Prop :=
  ∃ r, request = some r ∧ r.validate = .ok () ∧ r.witness.texts = v.witness.priv.entries ∧
    r.publicInputs = v.witness.pub

/-- the public halves are those of the root, where both are there -/
def RootMatches (v : TestVector) : Prop :=
  ∀ state hi lo, v.stateReference = some state → v.witness.pub.get "root_hi" = some hi →
    v.witness.pub.get "root_lo" = some lo → state.rootHalves = some (hi, lo)

theorem standsFor_iff {v : TestVector} {backend : String} {id : BackendId}
    (hbackend : BackendId.new backend = .ok id) (hcanonical : Canonicalized v.witness.priv.entries)
    (hvalid : v.validateStructure = .ok ()) :
    v.StandsFor (v.toRequestFor backend) ↔
      (∀ e ∈ v.witness.priv.entries, validateName e.1 = .ok ()) ∧ v.witness.pub.entries ≠ [] ∧
        v.RootMatches := by
  obtain ⟨hpriv, hroot⟩ := validateStructure_ok hvalid
  refine ⟨fun ⟨r, hr, hvalidate, _, hpub⟩ => ?_, fun ⟨hnames, hpub, hmatches⟩ => ?_⟩
  · obtain ⟨_, hpub', hstate⟩ := toRequestFor_parts hr
    obtain ⟨_, hnonempty, _, hhalves⟩ := ProofRequest.validate_ok.mp hvalidate
    refine ⟨(insertSecrets_some hcanonical (toRequestFor_some hr)).1, fun hnil => ?_, ?_⟩
    · rw [hpub, Bag.isEmpty, hnil] at hnonempty
      cases hnonempty
    · rw [hpub, hstate] at hhalves
      exact hhalves
  · have hnodup : (PrivateWitnessBag.new.names ++ v.witness.priv.entries.map Prod.fst).Nodup :=
      v.witness.priv.keys_nodup
    obtain ⟨witness, hsecrets⟩ := insertSecrets_of_valid hcanonical hnames hnodup
    obtain ⟨r, hr⟩ := toRequestFor_of_secrets hbackend hsecrets
    obtain ⟨hop, hpublic, hstate⟩ := toRequestFor_parts hr
    have htexts : r.witness.texts = v.witness.priv.entries :=
      (insertSecrets_some hcanonical (toRequestFor_some hr)).2
    refine ⟨r, hr, ProofRequest.validate_ok.mpr ⟨?_, ?_, fun hbound => ?_, ?_⟩, htexts, hpublic⟩
    · refine Bool.eq_false_iff.mpr fun hempty => hpriv ?_
      have hnil : r.witness.bag.entries = [] := List.isEmpty_iff.mp hempty
      rw [← htexts, PrivateWitnessBag.texts, hnil]
      rfl
    · rw [hpublic]
      exact Bool.eq_false_iff.mpr fun hempty => hpub (List.isEmpty_iff.mp hempty)
    · rw [hop] at hbound
      obtain ⟨state, _, _, hsome, _⟩ := validateRoot_ok (hroot hbound)
      exact ⟨state, hstate.trans hsome⟩
    · rw [hpublic, hstate]
      exact hmatches

end TestVector

/-! ## the files that can be requested -/

/-- the file has the value under the name -/
def RawBag.Says (raw : RawBag) (name : String) (value : FieldValue) : Prop :=
  ∃ text, (name, text) ∈ raw.entries ∧ FieldValue.fromHex text = .ok value

theorem RawBag.says_iff {raw : RawBag} {bag : PublicInputBag} (hwf : bag.WellFormed)
    (hread : List.Forall₂ ReadsField raw.entries bag.entries) {name : String}
    {value : FieldValue} : bag.get name = some value ↔ raw.Says name value := by
  refine ⟨fun hget => ?_, fun ⟨text, hmem, hvalue⟩ => ?_⟩
  · obtain ⟨⟨_, text⟩, hmem, hname, hvalue⟩ := exists_of_forall₂ hread.flip (Bag.mem_of_get hget)
    obtain rfl := hname
    exact ⟨text, hmem, hvalue⟩
  · obtain ⟨entry, hentry, hname, hvalue'⟩ := exists_of_forall₂ hread hmem
    obtain rfl : value = entry.2 := Except.ok.inj (hvalue.symm.trans hvalue')
    have hget := Bag.get_of_mem hwf.nodup hentry
    rwa [hname] at hget

/-- the rules of requests that loading does not check: private names are names, there are public
values, and a register or deposit that names a root names it rightly -/
structure RawVector.Requestable (raw : RawVector) : Prop where
  names : ∀ name ∈ raw.witness.priv.keys, validateName name = .ok ()
  values : raw.witness.pub.entries ≠ []
  root : raw.operation.stateBound = false → ∀ state hi lo, raw.stateReference = some state →
    raw.witness.pub.Says "root_hi" hi → raw.witness.pub.Says "root_lo" lo →
      state.rootHalves = some (hi, lo)

/-- **A vector that loads need not be a well-formed request.**  It is one, for both backends,
exactly when its file keeps the rules that loading does not check. -/
theorem vector_request_iff {text : JsonText} {path : String}
    {content : Except String (List UInt8)} {v : TestVector}
    (h : TestVector.load text path content = .ok v) :
    ∃ bytes json raw, content = .ok bytes ∧ text.parse bytes = .ok json ∧
      (fromJson json : Except String RawVector) = .ok raw ∧
      (v.StandsFor v.toRequest ∧ v.StandsFor (v.toRequestFor BackendId.ultrahonk) ↔
        raw.Requestable) := by
  obtain ⟨bytes, json, raw, context, hbytes, hjson, hraw, hwitness, hop, hstate, hvalid⟩ :=
    TestVector.load_ok h
  obtain ⟨hsecrets, hwf, hread⟩ := RawWitness.intoWitness_ok hwitness
  refine ⟨bytes, json, raw, hbytes, hjson, hraw, ?_⟩
  have hcanonical : TestVector.Canonicalized v.witness.priv.entries := by
    intro e he
    obtain ⟨_, _, _, value, _, hvalue⟩ := exists_of_forall₂ hsecrets.flip he
    exact ⟨value, hvalue⟩
  have hmock : BackendId.new BackendId.mock = .ok ⟨"mock"⟩ := by decide
  have hultra : BackendId.new BackendId.ultrahonk = .ok ⟨"ultrahonk"⟩ := by decide
  have hnames : (∀ e ∈ v.witness.priv.entries, validateName e.1 = .ok ()) ↔
      ∀ name ∈ raw.witness.priv.keys, validateName name = .ok () := by
    show _ ↔ ∀ name ∈ raw.witness.priv.entries.map Prod.fst, _
    rw [← CanonicalSecret.keys hsecrets, List.forall_mem_map]
  have hvalues : v.witness.pub.entries ≠ [] ↔ raw.witness.pub.entries ≠ [] := by
    refine not_congr ?_
    rw [← List.length_eq_zero_iff, ← List.length_eq_zero_iff, hread.length_eq]
  have hroot : v.RootMatches ↔ (raw.operation.stateBound = false → ∀ state hi lo,
      raw.stateReference = some state → raw.witness.pub.Says "root_hi" hi →
      raw.witness.pub.Says "root_lo" lo → state.rootHalves = some (hi, lo)) := by
    unfold TestVector.RootMatches
    simp only [hstate, RawBag.says_iff hwf hread]
    refine ⟨fun hmatches _ => hmatches, fun hmatches => ?_⟩
    by_cases hbound : raw.operation.stateBound
    · -- a state-bound vector was checked when it was loaded
      obtain ⟨state, hi, lo, hsome, hhalves, hhi, hlo⟩ := TestVector.validateRoot_ok
        ((TestVector.validateStructure_ok hvalid).2 (hop ▸ hbound))
      intro state' hi' lo' hsome' hhi' hlo'
      rw [hstate, hsome'] at hsome
      obtain rfl := Option.some.inj hsome
      rw [← RawBag.says_iff hwf hread, hhi] at hhi'
      rw [← RawBag.says_iff hwf hread, hlo] at hlo'
      rw [hhalves, Option.some.inj hhi', Option.some.inj hlo']
    · exact hmatches (Bool.eq_false_iff.mpr hbound)
  rw [TestVector.toRequest, TestVector.standsFor_iff hmock hcanonical hvalid,
    TestVector.standsFor_iff hultra hcanonical hvalid, and_self, hnames, hvalues, hroot]
  exact ⟨fun ⟨h₁, h₂, h₃⟩ => ⟨h₁, h₂, h₃⟩, fun h => ⟨h.names, h.values, h.root⟩⟩

theorem canonical_abc : Canonical maxHexLen "abc".toList := by decide

/-- a register vector with one private value -/
def registerVector (secret : String) : RawVector where
  id := "register-valid-001"
  operation := .register
  category := "valid"
  description := none
  circuit := ⟨"register"⟩
  circuitVersion := ⟨0, 1, 0⟩
  witness :=
    { operation := .register
      priv := SortedMap.empty.insert secret "1234"
      pub := ⟨[("account_address", "abc")]⟩ }
  expectedOutputs := ⟨[]⟩
  stateReference := none
  expectVerification := true

/-- its file is read -/
def loadRegister (secret : String) : Except (Fault String) TestVector :=
  let text := JsonText.knowing (toJson (registerVector secret))
  TestVector.load text "register.json" (.ok (text.write (toJson (registerVector secret))))

def loadedRegister (secret : String) : TestVector where
  id := "register-valid-001"
  operation := .register
  category := "valid"
  description := none
  circuit := ⟨"register"⟩
  circuitVersion := ⟨0, 1, 0⟩
  witness :=
    { operation := .register
      priv := SortedMap.empty.insert secret "1234"
      pub := ⟨[("account_address", ⟨"abc", canonical_abc⟩)]⟩ }
  expectedPublicOutputs := .new
  stateReference := none
  expectVerification := true

/-- a private value called `Account_sk` loads, and assembling the request panics -/
theorem capital_name_panics : loadRegister "Account_sk" = .ok (loadedRegister "Account_sk") ∧
    (loadedRegister "Account_sk").toRequest.isNone ∧
    ¬ (loadedRegister "Account_sk").StandsFor (loadedRegister "Account_sk").toRequest := by
  have hnone : (loadedRegister "Account_sk").toRequest.isNone := by decide +kernel
  refine ⟨by decide +kernel, hnone, fun ⟨r, hr, _⟩ => ?_⟩
  rw [hr] at hnone
  cases hnone

theorem vector_request_iff_register :
    (loadedRegister "account_sk").StandsFor (loadedRegister "account_sk").toRequest := by
  have hload : loadRegister "account_sk" = .ok (loadedRegister "account_sk") := by decide +kernel
  obtain ⟨bytes, json, raw, hbytes, hjson, hraw, hiff⟩ := vector_request_iff hload
  obtain rfl := Except.ok.inj hbytes
  rw [JsonText.knowing_parse] at hjson
  obtain rfl := Except.ok.inj hjson
  rw [fromJson_toJson] at hraw
  obtain rfl := Except.ok.inj hraw
  refine (hiff.mpr ⟨by decide, by decide, fun _ state _ _ hstate => ?_⟩).1
  cases hstate

end Crucible
