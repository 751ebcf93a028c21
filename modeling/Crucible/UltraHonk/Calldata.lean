import Crucible.Interfaces.Circuit
import Crucible.UltraHonk.RoundTrips

/-!
# Calldata for the on-chain verifier (`crates/ultrahonk/src/calldata.rs`)

A version byte, the number of values in four bytes, and the values in 32 bytes each.

* `CalldataEncoder.encode`, `CalldataEncoder.decode`   as the source has them;
* `fieldBytes`            the 32 bytes of a value; every 32 bytes are those of one value;
* `layout`                a string of the format; `encode_eq`: what is written is one, and
                          `decode_ok`: what is read is one, of any version;
* `calldata_round_trip`, `decode_iff_encoded`   what was written is read, and where what is read
                          was written;
* `calldata_words`        the payload is, word for word, what `bb` is given;
* `encodeBag_names`       the names of a bag are not looked at.
-/

namespace Crucible
open Bytes Checked Text

/-- `FIELD_WIDTH` -/
def fieldWidth : Nat := 32

/-- `CALDATA_VERSION` -/
def caldataVersion : UInt8 := 1

structure PublicInput where
  name : String
  value : FieldValue
deriving DecidableEq

structure DecodedCalldata where
  version : UInt8
  inputs : List PublicInput
deriving DecidableEq

/-- `encode_field` -/
def encodeField (value : FieldValue) (name : String) :
    Except (Fault UltraHonkError) (List UInt8) := do
  let hex := value.hex.toList
  ensure (¬ byteLen hex > 64) (.error (.encode name "value exceeds 32 bytes"))
  let decoded ← fromOption .panic (hexDecode (padLeft '0' 64 hex))
  -- `copy_from_slice`
  ensure (decoded.length = fieldWidth) .panic
  return decoded

namespace CalldataEncoder

def encode (inputs : List PublicInput) : Except (Fault UltraHonkError) (List UInt8) := do
  let header := caldataVersion :: leBytes 4 (UInt32.ofNat inputs.length).toNat
  inputs.foldlM (fun out input => do
    let bytes ← encodeField input.value input.name
    return out ++ bytes) header

def encodeBag (bag : OutputBag) : Except (Fault UltraHonkError) (List UInt8) :=
  encode (bag.entries.map fun e => { name := e.1, value := e.2 })

/-- the name of an input on the wire is its position -/
def decodeInput (entry : List UInt8 × Nat) : Except UltraHonkError PublicInput := do
  let name := s!"input[{entry.2}]"
  let value ← (FieldValue.fromHex (hexEncode entry.1)).mapError fun e => .encode name e.message
  return { name, value }

/-- the version is read, and not looked at -/
def decode : List UInt8 → Except UltraHonkError DecodedCalldata
  | version :: b₀ :: b₁ :: b₂ :: b₃ :: payload => do
    let count := leValue [b₀, b₁, b₂, b₃]
    ensure (payload.length = count * fieldWidth) (.truncated (count * fieldWidth) payload.length)
    let inputs ← (asChunks fieldWidth payload).zipIdx.mapM decodeInput
    return { version, inputs }
  | _ => .error (.truncated 0 0)

end CalldataEncoder

/-! ## values as bytes -/

/-- the 32 bytes of a value, most significant first -/
def fieldBytes (value : FieldValue) : List UInt8 :=
  (hexDecode (padLeft '0' 64 value.hex.toList)).getD []

section
variable (value : FieldValue)

theorem length_padded : (padLeft '0' 64 value.hex.toList).length = 64 :=
  length_padLeft value.canonical.2.1

theorem hexDecode_padded :
    hexDecode (padLeft '0' 64 value.hex.toList) = some (fieldBytes value) := by
  have heven : (padLeft '0' 64 value.hex.toList).length % 2 = 0 := by rw [length_padded]
  obtain ⟨bytes, hbytes⟩ := hexDecode_of_even (isHexDigit_padLeft value.isHexDigit_hex) heven
  rw [fieldBytes, hbytes]
  rfl

theorem hexEncode_fieldBytes :
    (hexEncode (fieldBytes value)).toList = padLeft '0' 64 value.hex.toList := by
  have hlower : ∀ c ∈ padLeft '0' 64 value.hex.toList, lower c = c := by
    intro c hc
    rcases List.mem_append.mp hc with hzero | hc
    · rw [List.eq_of_mem_replicate hzero]
      rfl
    · exact lower_of_lower (List.all_eq_true.mp value.canonical.2.2.1 c hc)
  rw [hexEncode_hexDecode (hexDecode_padded value)]
  exact (List.map_congr_left hlower).trans (List.map_id _)

theorem length_fieldBytes : (fieldBytes value).length = fieldWidth := by
  have hlen := congrArg List.length (hexEncode_fieldBytes value)
  rw [hexEncode_length, length_padded] at hlen
  show (fieldBytes value).length = 32
  omega

/-- the bytes of a value are its number -/
theorem beValue_fieldBytes : beValue (fieldBytes value) = value.number := by
  rw [← hexValue_hexEncode, hexEncode_fieldBytes, hexValue_padLeft]
  rfl

theorem encodeField_eq (name : String) : encodeField value name = .ok (fieldBytes value) := by
  have hlen : byteLen value.hex.toList ≤ 64 := by
    rw [byteLen_of_hexDigits value.isHexDigit_hex]
    exact value.canonical.2.1
  unfold encodeField
  rw [ensure_pos (Nat.not_lt.mpr hlen), hexDecode_padded]
  exact ensure_pos (length_fieldBytes value)

end

section
variable {value : FieldValue} {bytes : List UInt8}

/-- what is read from 32 bytes has them -/
theorem fieldBytes_of_fromHex (hlen : bytes.length = fieldWidth)
    (h : FieldValue.fromHex (hexEncode bytes) = .ok value) : fieldBytes value = bytes := by
  obtain ⟨_, _, _, hnumber⟩ := denotes_iff.mp (FieldValue.fromHex_ok.mp h)
  rw [stripPrefix_of_hexDigits isHexDigit_hexEncode, hexValue_hexEncode] at hnumber
  refine beValue_inj ?_ ?_
  · rw [length_fieldBytes, hlen]
  · rw [beValue_fieldBytes, hnumber]

/-- every 32 bytes are those of a value -/
theorem exists_fieldBytes (h : bytes.length = fieldWidth) : ∃ value, fieldBytes value = bytes := by
  have hlen : (hexEncode bytes).toList.length = maxHexLen := by rw [hexEncode_length, h]; rfl
  have hne : (hexEncode bytes).toList ≠ [] := List.ne_nil_of_length_pos (by rw [hlen]; decide)
  have hread := FieldValue.fromHex_ofList hne (Nat.le_of_eq hlen) isHexDigit_hexEncode
  rw [String.ofList_toList] at hread
  exact ⟨_, fieldBytes_of_fromHex h hread⟩

/-- a value is read back from its bytes -/
theorem fromHex_fieldBytes (value : FieldValue) :
    FieldValue.fromHex (hexEncode (fieldBytes value)) = .ok value := by
  have hall := isHexDigit_padLeft (n := 64) value.isHexDigit_hex
  rw [FieldValue.fromHex_ok, denotes_iff, hexEncode_fieldBytes, stripPrefix_of_hexDigits hall,
    hexValue_padLeft]
  have hlen := length_padded value
  exact ⟨List.ne_nil_of_length_pos (by omega), by omega, hall, rfl⟩

end

/-! ## the format -/

/-- a string of the format: the version, the number of values, and the values -/
def layout (version : UInt8) (count : Nat) (values : List FieldValue) : List UInt8 :=
  version :: (leBytes 4 count ++ (values.map fieldBytes).flatten)

/-- the number of values that the header declares -/
def declared (bytes : List UInt8) : Nat := leValue ((bytes.drop 1).take 4)

/-- the payload has the length that the header declares -/
def WellSized (bytes : List UInt8) : Prop := bytes.length = 5 + fieldWidth * declared bytes

/-- the payload is whole values, and more of them than four bytes can count -/
def Overflowed (bytes : List UInt8) : Prop :=
  ∃ n, 2^32 ≤ n ∧ bytes.length = 5 + fieldWidth * n ∧ declared bytes = n % 2^32

/-- values under the names of their positions -/
def positional (values : List FieldValue) : List PublicInput :=
  values.zipIdx.map fun entry => { name := s!"input[{entry.2}]", value := entry.1 }

section
variable {version : UInt8} {count n : Nat} {values : List FieldValue} {bytes : List UInt8}

theorem positional_values : (positional values).map PublicInput.value = values := by
  rw [positional, List.map_map]
  exact List.zipIdx_map_fst 0 values

theorem length_positional : (positional values).length = values.length := by
  rw [positional, List.length_map, List.length_zipIdx]

theorem length_parts {part : List UInt8} (h : part ∈ values.map fieldBytes) :
    part.length = fieldWidth := by
  obtain ⟨value, _, rfl⟩ := List.mem_map.mp h
  exact length_fieldBytes value

theorem length_layout : (layout version count values).length = 5 + fieldWidth * values.length := by
  rw [layout, List.length_cons, List.length_append, length_leBytes,
    length_flatten_of_parts fun _ h => length_parts h, List.length_map, Nat.mul_comm]
  omega

theorem declared_layout : declared (layout version count values) = count % 2^32 := by
  have htake : ((layout version count values).drop 1).take 4 = leBytes 4 count := by
    show (leBytes 4 count ++ _).take 4 = _
    exact List.take_left' length_leBytes
  rw [declared, htake]
  exact leValue_leBytes

theorem declared_lt : declared bytes < 2^32 := by
  have hlen : ((bytes.drop 1).take 4).length ≤ 4 := List.length_take_le _ _
  exact Nat.lt_of_lt_of_le leValue_lt (Nat.pow_le_pow_right (by decide) hlen)

/-- whole values behind their number are a string of the format -/
theorem exists_layout (hlen : bytes.length = 5 + fieldWidth * n)
    (hcount : declared bytes = n % 2^32) :
    ∃ version values, values.length = n ∧ bytes = layout version n values := by
  cases bytes with
  | nil =>
    rw [List.length_nil] at hlen
    omega
  | cons version rest =>
    rw [List.length_cons] at hlen
    have hwhole : (rest.drop 4).length = n * fieldWidth := by
      rw [List.length_drop, Nat.mul_comm n]
      omega
    have hvalue : ∀ part ∈ cut fieldWidth n (rest.drop 4), ∃ value, fieldBytes value = part := by
      intro part hpart
      exact exists_fieldBytes (length_of_mem_cut (Nat.le_of_eq hwhole.symm) hpart)
    obtain ⟨values, hall⟩ := forall₂_of_exists hvalue
    have hparts : values.map fieldBytes = cut fieldWidth n (rest.drop 4) := by
      rw [map_eq_of_forall₂ (hall.imp fun _ _ h => h), List.map_id']
    have hheader : leBytes 4 n = rest.take 4 := by
      have hfour : (rest.take 4).length = 4 := by
        rw [List.length_take]
        omega
      have hback := leBytes_leValue (rest.take 4)
      rw [hfour, show leValue (rest.take 4) = n % 256^4 from hcount, leBytes_mod] at hback
      exact hback
    refine ⟨version, values, ?_, ?_⟩
    · rw [← hall.length_eq, length_cut]
    · rw [layout, hparts, flatten_cut hwhole, hheader, List.take_append_drop]

end

namespace CalldataEncoder
variable {bytes : List UInt8} {d : DecodedCalldata}

/-! ## what is written -/

theorem foldlM_encodeField (inputs : List PublicInput) (out : List UInt8) :
    inputs.foldlM (fun out input => do
      let bytes ← encodeField input.value input.name
      return out ++ bytes) out
    = (.ok (out ++ (inputs.map fun input => fieldBytes input.value).flatten) :
      Except (Fault UltraHonkError) (List UInt8)) := by
  induction inputs generalizing out with
  | nil => exact congrArg Except.ok (List.append_nil out).symm
  | cons input inputs ih =>
    rw [List.foldlM_cons, encodeField_eq, List.map_cons, List.flatten_cons, ← List.append_assoc]
    exact ih _

/-- every list is written, and its names are not -/
theorem encode_eq (inputs : List PublicInput) :
    encode inputs = .ok (layout caldataVersion inputs.length (inputs.map PublicInput.value)) := by
  have hcount : leBytes 4 (UInt32.ofNat inputs.length).toNat = leBytes 4 inputs.length := leBytes_mod
  have hparts : (inputs.map PublicInput.value).map fieldBytes
      = inputs.map fun input => fieldBytes input.value := List.map_map
  unfold encode
  rw [hcount, foldlM_encodeField, layout, hparts]
  rfl

/-- the strings that are written are those of this version whose number of values is right -/
theorem exists_encode_iff : (∃ inputs, encode inputs = .ok bytes) ↔
    ∃ values, bytes = layout caldataVersion values.length values := by
  constructor
  · intro h
    obtain ⟨inputs, h⟩ := h
    rw [encode_eq] at h
    refine ⟨inputs.map PublicInput.value, ?_⟩
    rw [List.length_map]
    exact (Except.ok.inj h).symm
  · intro h
    obtain ⟨values, rfl⟩ := h
    refine ⟨positional values, ?_⟩
    rw [encode_eq, positional_values, length_positional]

/-! ## what is read -/

theorem decodeInput_fieldBytes (value : FieldValue) (i : Nat) :
    decodeInput (fieldBytes value, i) = .ok { name := s!"input[{i}]", value } := by
  unfold decodeInput
  rw [fromHex_fieldBytes]
  rfl

theorem mapM_decodeInput (values : List FieldValue) :
    (values.map fieldBytes).zipIdx.mapM decodeInput = .ok (positional values) := by
  refine mapM_of_forall₂ ?_
  rw [List.zipIdx_map, positional, List.forall₂_map_left_iff, List.forall₂_map_right_iff,
    List.forall₂_same]
  exact fun entry _ => decodeInput_fieldBytes entry.1 entry.2

/-- a string of the format is read, of any version -/
theorem decode_layout {version : UInt8} {values : List FieldValue} (h : values.length < 2^32) :
    decode (layout version values.length values)
      = .ok { version, inputs := positional values } := by
  have hparts : ∀ part ∈ values.map fieldBytes, part.length = fieldWidth := fun _ => length_parts
  have hcount : leValue (leBytes 4 values.length) = values.length := by
    rw [leValue_leBytes]
    exact Nat.mod_eq_of_lt h
  have hsize : (values.map fieldBytes).flatten.length = values.length * fieldWidth := by
    rw [length_flatten_of_parts hparts, List.length_map]
  show (do
    ensure ((values.map fieldBytes).flatten.length
      = leValue (leBytes 4 values.length) * fieldWidth) _
    let inputs ← (asChunks fieldWidth (values.map fieldBytes).flatten).zipIdx.mapM decodeInput
    return { version, inputs } : Except UltraHonkError DecodedCalldata) = _
  rw [ensure_pos (by rw [hcount, hsize]), asChunks_flatten (by decide) hparts, mapM_decodeInput]
  rfl

theorem wellSized_of_decode (h : decode bytes = .ok d) : WellSized bytes := by
  unfold decode at h
  split at h
  · next version b₀ b₁ b₂ b₃ payload =>
    simp only [bind_ok, ensure_ok, exists_const] at h
    have hsize := h.1
    show payload.length + 5 = 5 + fieldWidth * leValue [b₀, b₁, b₂, b₃]
    rw [hsize, Nat.mul_comm, Nat.add_comm]
  · cases h

/-- a string whose payload has its length is one of the format -/
theorem layout_of_wellSized (h : WellSized bytes) : ∃ version values,
    values.length < 2^32 ∧ bytes = layout version values.length values := by
  have hlt : declared bytes < 2^32 := declared_lt
  obtain ⟨version, values, hlen, hbytes⟩ := exists_layout h (Nat.mod_eq_of_lt hlt).symm
  rw [← hlen] at hlt hbytes
  exact ⟨version, values, hlt, hbytes⟩

/-- **What is read is a string of the format, of any version.** -/
theorem decode_ok : decode bytes = .ok d ↔ ∃ values, values.length < 2^32 ∧
    bytes = layout d.version values.length values ∧ d.inputs = positional values := by
  constructor
  · intro h
    obtain ⟨version, values, hlt, rfl⟩ := layout_of_wellSized (wellSized_of_decode h)
    rw [decode_layout hlt] at h
    obtain rfl := Except.ok.inj h
    exact ⟨values, hlt, rfl, rfl⟩
  · intro h
    obtain ⟨values, hlt, rfl, hinputs⟩ := h
    rw [decode_layout hlt, ← hinputs]

theorem exists_decode_iff : (∃ d, decode bytes = .ok d) ↔ WellSized bytes := by
  constructor
  · intro h
    obtain ⟨d, h⟩ := h
    exact wellSized_of_decode h
  · intro h
    obtain ⟨version, values, hlt, rfl⟩ := layout_of_wellSized h
    exact ⟨_, decode_layout hlt⟩

end CalldataEncoder

open CalldataEncoder

/-! ## round trips -/

/-- **What was written is read**: a list that four bytes can count is written in 5 bytes and 32 a
value, and read as its values, in this version. -/
theorem calldata_round_trip (inputs : List PublicInput) (h : inputs.length < 2^32) :
    ∃ bytes, encode inputs = .ok bytes ∧ bytes.length = 5 + 32 * inputs.length ∧
      ∃ d, decode bytes = .ok d ∧ d.version = caldataVersion ∧
        d.inputs.length = inputs.length ∧
        d.inputs.map PublicInput.value = inputs.map PublicInput.value := by
  have hlen : (inputs.map PublicInput.value).length = inputs.length := List.length_map _
  have hread : decode (layout caldataVersion inputs.length (inputs.map PublicInput.value))
      = .ok { version := caldataVersion, inputs := positional (inputs.map PublicInput.value) } := by
    rw [← hlen] at h ⊢
    exact decode_layout h
  refine ⟨_, encode_eq inputs, ?_, _, hread, rfl, ?_, ?_⟩
  · rw [length_layout, hlen]
    rfl
  · rw [length_positional, hlen]
  · exact positional_values

theorem calldata_round_trip_zero : ∃ bytes, encode [⟨"amount", .zero⟩] = .ok bytes ∧
    bytes.length = 5 + 32 * 1 ∧ ∃ d, decode bytes = .ok d ∧ d.version = caldataVersion ∧
      d.inputs.length = 1 ∧ d.inputs.map PublicInput.value = [FieldValue.zero] :=
  calldata_round_trip [⟨"amount", .zero⟩] (by decide)

/-- **Where what is read was written**: not in another version, which is read all the same, and not
where a list was longer than its header can say, which is written all the same. -/
theorem decode_iff_encoded (bytes : List UInt8) :
    (((∃ d, decode bytes = .ok d) ↔ ∃ inputs, encode inputs = .ok bytes) ∧
      ∀ d, decode bytes = .ok d →
        encode d.inputs = .ok bytes ∧ bytes.head? = some caldataVersion) ↔
    (WellSized bytes → bytes.head? = some caldataVersion) ∧
      (bytes.head? = some caldataVersion → ¬ Overflowed bytes) := by
  rw [exists_decode_iff, exists_encode_iff]
  constructor
  · intro h
    obtain ⟨hiff, hread⟩ := h
    refine ⟨fun hsize => ?_, fun hhead hover => ?_⟩
    · obtain ⟨d, hd⟩ := exists_decode_iff.mpr hsize
      exact (hread d hd).2
    · obtain ⟨n, hn, hlen, hcount⟩ := hover
      obtain ⟨version, values, rfl, rfl⟩ := exists_layout hlen hcount
      obtain rfl : version = caldataVersion := Option.some.inj hhead
      have hsize : WellSized _ := hiff.mpr ⟨values, rfl⟩
      rw [WellSized, length_layout, declared_layout] at hsize
      have hmod : values.length % 2^32 < 2^32 := Nat.mod_lt _ (by decide)
      have hfield : fieldWidth = 32 := rfl
      rw [hfield] at hsize
      omega
  · intro h
    obtain ⟨hversion, hover⟩ := h
    refine ⟨⟨fun hsize => ?_, fun hwritten => ?_⟩, fun d hd => ?_⟩
    · obtain ⟨version, values, _, rfl⟩ := layout_of_wellSized hsize
      obtain rfl : version = caldataVersion := Option.some.inj (hversion hsize)
      exact ⟨values, rfl⟩
    · obtain ⟨values, rfl⟩ := hwritten
      by_cases hlt : values.length < 2^32
      · exact exists_decode_iff.mp ⟨_, decode_layout hlt⟩
      · exact absurd ⟨_, Nat.le_of_not_lt hlt, length_layout, declared_layout⟩ (hover rfl)
    · have hhead := hversion (wellSized_of_decode hd)
      obtain ⟨values, _, hbytes, hinputs⟩ := decode_ok.mp hd
      have hv : d.version = caldataVersion := by
        rw [hbytes] at hhead
        exact Option.some.inj hhead
      rw [encode_eq, hinputs, positional_values, length_positional, hbytes, hv]
      exact ⟨rfl, rfl⟩

/-- a header of version 2 without values -/
theorem decode_other_version : ¬ ∀ bytes : List UInt8,
    ((∃ d, decode bytes = .ok d) ↔ ∃ inputs, encode inputs = .ok bytes) ∧
      ∀ d, decode bytes = .ok d →
        encode d.inputs = .ok bytes ∧ bytes.head? = some caldataVersion := by
  intro h
  have hread : decode [2, 0, 0, 0, 0] = .ok { version := 2, inputs := [] } := rfl
  have hhead := ((h [2, 0, 0, 0, 0]).2 _ hread).2
  revert hhead
  decide

/-! ## the order of a bag -/

theorem encodeBag_eq (bag : OutputBag) :
    encodeBag bag = .ok (layout caldataVersion bag.values.length bag.values) := by
  have hvalues : (bag.entries.map fun e => (⟨e.1, e.2⟩ : PublicInput)).map PublicInput.value
      = bag.values := List.map_map
  unfold encodeBag
  rw [encode_eq, hvalues, List.length_map, Bag.values, List.length_map]

/-- **Every bag is written, and only its values in their order**: names are not read, so the encoder
asks for the names of an operation from no bag but those that have them. -/
theorem encodeBag_names (op : Operation) (bag : OutputBag) :
    encodeBag bag = .ok (layout caldataVersion bag.values.length bag.values) ∧
    (∀ other : OutputBag, other.values = bag.values → encodeBag other = encodeBag bag) ∧
    (((∃ bytes, encodeBag bag = .ok bytes) → bag.names = (expectations op).publicNames) ↔
      bag.names = (expectations op).publicNames) := by
  refine ⟨encodeBag_eq bag, fun other hvalues => ?_, fun h => ?_, fun h _ => h⟩
  · rw [encodeBag_eq, encodeBag_eq, hvalues]
  · exact h ⟨_, encodeBag_eq bag⟩

/-- the outputs of a deposit, two of them exchanged -/
def exchanged : OutputBag := ⟨["account_address", "token_address", "old_commitment",
  "new_commitment", "nullifier"].map fun name => (name, FieldValue.zero)⟩

theorem encodeBag_exchanged : ¬ ∀ (op : Operation) (bag : OutputBag),
    (∃ bytes, encodeBag bag = .ok bytes) → bag.names = (expectations op).publicNames := by
  intro h
  have hnames := h .deposit exchanged ⟨_, encodeBag_eq exchanged⟩
  revert hnames
  decide

/-! ## what `bb` is given -/

/-- a public word is the text of the bytes of its value -/
theorem publicWord_eq (value : FieldValue) :
    publicWord value = "0x" ++ hexEncode (fieldBytes value) := by
  rw [publicWord, ← hexEncode_fieldBytes, String.ofList_toList]

theorem wordBytes_publicWord (value : FieldValue) :
    Exec.wordBytes (publicWord value) = .ok (fieldBytes value) := by
  rw [publicWord_eq]
  exact wordBytes_hexEncode (length_fieldBytes value)

theorem drop_layout {version : UInt8} {count : Nat} {values : List FieldValue} :
    (layout version count values).drop 5 = (values.map fieldBytes).flatten := by
  show (leBytes 4 count ++ (values.map fieldBytes).flatten).drop 4 = _
  exact List.drop_left' length_leBytes

/-- **The payload is what `bb` is given**: 32 bytes at a time, the bytes of each word that the
verifier writes for the public outputs, in their order and number. -/
theorem calldata_words (r : VerificationRequest) :
    ∃ bytes, encodeBag r.publicOutputs = .ok bytes ∧
      (bytes.drop 5).length = 32 * (publicInputsDocument r.publicOutputs).publicInputs.length ∧
      List.Forall₂ (fun word part => Exec.wordBytes word = .ok part)
        (publicInputsDocument r.publicOutputs).publicInputs (asChunks 32 (bytes.drop 5)) := by
  have hparts : ∀ part ∈ r.publicOutputs.values.map fieldBytes, part.length = 32 :=
    fun _ => length_parts
  refine ⟨_, encodeBag_eq r.publicOutputs, ?_, ?_⟩
  · rw [drop_layout, length_flatten_of_parts hparts, List.length_map, Nat.mul_comm]
    exact congrArg (32 * ·) (List.length_map _).symm
  · rw [drop_layout, asChunks_flatten (by decide) hparts]
    show List.Forall₂ _ (r.publicOutputs.values.map publicWord) _
    rw [List.forall₂_map_left_iff, List.forall₂_map_right_iff, List.forall₂_same]
    exact fun value _ => wordBytes_publicWord value

end Crucible
