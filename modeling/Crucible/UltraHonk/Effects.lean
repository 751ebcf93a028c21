import Crucible.Circuit.Openings
import Crucible.UltraHonk.Completeness

/-!
# What a response says (`crates/ultrahonk/src/provider.rs`, `circuits/*/src/main.nr`)

The words that `bb` reports have no names.  The provider gives them the names of the interface, in
order; a ledger reads the response by those names.

* `Operation.parameters`     the parameters of each `main`, as the interface splits them;
* `Operation.call`           `main` on values by name, and the words it returns;
* `Circuits`                 `nargo` and `bb` run that `main`, on the values of the file;
* `EffectNames.Read`         the effect of an execution, read from public outputs by name;
* `response_effect`          a response reads as the effect of an execution on the values of its
                             request.
-/

namespace Crucible
open Checked Text Files Nargo

/-! ## the circuits, by name -/

/-- the parameters of `main`, in the order of the source, and whether they are `pub` -/
def Operation.parameters : Operation → List (String × Bool)
  | .register => [("account_address", true), ("account_sk", false)]
  | .deposit =>
    [("token_address", true), ("account_address", true), ("old_commitment", true),
      ("account_sk", false), ("old_amount", false), ("old_blinding", false), ("amount", false),
      ("blinding", false)]
  | .merge =>
    [("token_address", true), ("account_address", true), ("commitment_a", true),
      ("commitment_b", true), ("root_hi", true), ("root_lo", true), ("account_sk", false),
      ("amount_a", false), ("blinding_a", false), ("amount_b", false), ("blinding_b", false),
      ("blinding", false)]
  | .transfer =>
    [("token_address", true), ("sender_address", true), ("recipient_address", true),
      ("old_sender_commitment", true), ("root_hi", true), ("root_lo", true), ("sender_sk", false),
      ("amount", false), ("old_amount", false), ("old_blinding", false),
      ("recipient_blinding", false), ("change_blinding", false)]
  | .withdraw =>
    [("token_address", true), ("account_address", true), ("commitment", true), ("root_hi", true),
      ("root_lo", true), ("account_sk", false), ("amount", false), ("old_amount", false),
      ("old_blinding", false), ("change_blinding", false)]

/-- the execution on values by name; a registration moves nothing -/
def Operation.execution (v : String → Field) : Operation → Option Execution
  | .register => none
  | .deposit => some <| .deposit
    { tokenAddress := v "token_address", accountAddress := v "account_address"
      oldCommitment := v "old_commitment", accountSk := v "account_sk"
      oldAmount := v "old_amount", oldBlinding := v "old_blinding", amount := v "amount"
      blinding := v "blinding" }
  | .merge => some <| .merge
    { tokenAddress := v "token_address", accountAddress := v "account_address"
      commitmentA := v "commitment_a", commitmentB := v "commitment_b", rootHi := v "root_hi"
      rootLo := v "root_lo", accountSk := v "account_sk", amountA := v "amount_a"
      blindingA := v "blinding_a", amountB := v "amount_b", blindingB := v "blinding_b"
      blinding := v "blinding" }
  | .transfer => some <| .transfer
    { tokenAddress := v "token_address", senderAddress := v "sender_address"
      recipientAddress := v "recipient_address"
      oldSenderCommitment := v "old_sender_commitment", rootHi := v "root_hi"
      rootLo := v "root_lo", senderSk := v "sender_sk", amount := v "amount"
      oldAmount := v "old_amount", oldBlinding := v "old_blinding"
      recipientBlinding := v "recipient_blinding", changeBlinding := v "change_blinding" }
  | .withdraw => some <| .withdraw
    { tokenAddress := v "token_address", accountAddress := v "account_address"
      commitment := v "commitment", rootHi := v "root_hi", rootLo := v "root_lo"
      accountSk := v "account_sk", amount := v "amount", oldAmount := v "old_amount"
      oldBlinding := v "old_blinding", changeBlinding := v "change_blinding" }

/-- `main` on values by name: the words it returns -/
def Operation.call (std : Std) (v : String → Field) (c : Operation) : Except String (List Field) :=
  match c.execution v with
  | some e => e.returns std
  | none => do
    Register.main std { accountAddress := v "account_address", accountSk := v "account_sk" }
    return []

/-- the public words of an accepted call, in the order of the source -/
def Operation.publicValues (v : String → Field) (c : Operation) (returned : List Field) :
    List Field :=
  ((c.parameters.filter Prod.snd).map fun q => v q.1) ++ returned

/-- the interface expects the parameters of the source -/
theorem parameters_expected (c : Operation) :
    (c.parameters.filter Prod.snd).map Prod.fst = (expectations c).publicParams ∧
      (c.parameters.filter fun q => !q.2).map Prod.fst = (expectations c).priv := by
  cases c <;> decide

/-! ## the tools -/

/-- `nargo` and `bb` run the circuits of the source, on the artifacts that the gate lets through -/
structure Circuits (std : Std) (p : UltraHonkProvider) (m : Machine) : Prop where
  /-- `nargo` runs `main` on the values of the file, each given once, and `bb` reports its public
  words in order -/
  ran : ∀ (c : Operation) toml witness, Plain toml → m.nargo.Solves c.asStr toml witness →
    ∀ r bb pinned artifacts, r.circuit = .forOperation c → p.gate m r = .ok (bb, pinned) →
    m.Proves pinned.bytecode.content witness artifacts →
    ∃ v returned, (∀ q ∈ c.parameters, ∃ digits, GivenOnce toml q.1 digits ∧
        hexValue digits = (v q.1).val) ∧
      c.call std v = .ok returned ∧
      artifacts.publicInputs.publicInputs.map wordNumber
        = (c.publicValues v returned).map fun x => some x.val
  /-- `bb` writes words -/
  words : ∀ bytecode witness artifacts, m.Proves bytecode witness artifacts →
    ∀ word ∈ artifacts.publicInputs.publicInputs, IsWord word

/-! ## reading by name -/

/-- the name has the value `x` -/
def OutputBag.Has (outputs : OutputBag) (name : String) (x : Field) : Prop :=
  ∃ value, outputs.get name = some value ∧ value.number = x.val

/-- under which names the effect of an execution is found -/
structure EffectNames where
  token : String
  owner : String
  /-- each consumed commitment, and its nullifier -/
  spent : List (String × String)
  produced : List String

def Operation.effectNames : Operation → Option EffectNames
  | .register => none
  | .deposit => some
    { token := "token_address", owner := "account_address"
      spent := [("old_commitment", "nullifier")], produced := ["new_commitment"] }
  | .merge => some
    { token := "token_address", owner := "account_address"
      spent := [("commitment_a", "nullifier_a"), ("commitment_b", "nullifier_b")]
      produced := ["merged_commitment"] }
  | .transfer => some
    { token := "token_address", owner := "sender_address"
      spent := [("old_sender_commitment", "nullifier")]
      produced := ["recipient_commitment", "change_commitment"] }
  | .withdraw => some
    { token := "token_address", owner := "account_address"
      spent := [("commitment", "nullifier")], produced := ["change_commitment"] }

/-- the public outputs say the effect -/
structure EffectNames.Read (names : EffectNames) (outputs : OutputBag) (E : Effect) : Prop where
  token : outputs.Has names.token E.token
  owner : outputs.Has names.owner E.owner
  spent : List.Forall₂ (fun q s => outputs.Has q.1 s.1 ∧ outputs.Has q.2 s.2) names.spent E.spent
  produced : List.Forall₂ outputs.Has names.produced E.produced

/-- every parameter of `main` has one value in the request -/
def ProofRequest.Gives (r : ProofRequest) (v : String → Field) : Prop :=
  ∀ q ∈ r.operation.parameters, ∃ value : FieldValue, value.number = (v q.1).val ∧
    (q.1, value) ∈ (WitnessData.fromRequest r).values ∧
    ∀ e ∈ (WitnessData.fromRequest r).values, e.1 = q.1 → e.2 = value

/-! ## from the words to the names -/

section
variable {r : ProofRequest} {words : List String} {outputs : OutputBag} {xs : List Field}

/-- words that are read have the values that are read -/
theorem values_of_words (hwords : ∀ word ∈ words, IsWord word)
    (hnumbers : words.map wordNumber = xs.map fun x => some x.val) {values : List FieldValue}
    (hread : List.Forall₂ (fun word value => fieldFromWord word = .ok value) words values) :
    List.Forall₂ (fun value x => value.number = x.val) values xs := by
  induction hread generalizing xs with
  | nil =>
    obtain rfl := List.map_eq_nil_iff.mp hnumbers.symm
    exact .nil
  | @cons word value words values hword _ ih =>
    obtain ⟨hfirst, hrest⟩ := List.forall_mem_cons.mp hwords
    rw [List.map_cons] at hnumbers
    obtain ⟨x, xs, rfl, hx, hxs⟩ := List.map_eq_cons_iff.mp hnumbers.symm
    rw [fieldFromWord_number hfirst hword] at hx
    exact .cons (Option.some.inj hx).symm (ih hrest hxs.symm)

/-- so do the names that they are given -/
theorem has_of_words (hwords : ∀ word ∈ words, IsWord word)
    (hnumbers : words.map wordNumber = xs.map fun x => some x.val)
    (h : UltraHonkProvider.nameOutputs r words = .ok outputs) :
    List.Forall₂ outputs.Has (expectations r.operation).publicNames xs := by
  obtain ⟨_, hnames, hread⟩ := UltraHonkProvider.nameOutputs_ok h
  have hnodup : outputs.names.Nodup := by
    rw [hnames]
    exact (expectations_names r.operation).2.2
  have hvalues : List.Forall₂ (fun value x => value.number = x.val) outputs.values xs :=
    values_of_words hwords hnumbers hread
  rw [← hnames]
  refine List.forall₂_map_left_iff.mpr ?_
  have hentries := (List.forall₂_and_left _ _).mpr
    ⟨fun e he => Bag.get_of_mem hnodup he, List.forall₂_map_left_iff.mp hvalues⟩
  exact hentries.imp fun e x h => ⟨e.2, h.1, h.2⟩

theorem has_at {names : List String} (h : List.Forall₂ outputs.Has names xs) (i : Nat)
    {name : String} {x : Field} (hname : names[i]? = some name) (hx : xs[i]? = some x) :
    outputs.Has name x := by
  obtain ⟨hlt, rfl⟩ := List.getElem?_eq_some_iff.mp hname
  obtain ⟨hlt', rfl⟩ := List.getElem?_eq_some_iff.mp hx
  exact h.get hlt hlt'

/-- the effect of an execution is read from its public words, by their positions -/
theorem read_of_values {std : Std} {v : String → Field} {c : Operation} {names : EffectNames}
    {returned : List Field} (hcall : c.call std v = .ok returned)
    (hnames : c.effectNames = some names)
    (hhas : List.Forall₂ outputs.Has (expectations c).publicNames (c.publicValues v returned)) :
    ∃ e E, c.execution v = some e ∧ e.run std = .ok E ∧ names.Read outputs E := by
  have hreturns {e : Execution} (he : c.execution v = some e) :
      ∃ ns, e.run std = .ok (e.effect std ns) ∧ e.produced = .ok ns ∧
        returned = ns.map (Note.commitment std) ++ (e.effect std ns).spent.map Prod.snd := by
    rw [Operation.call, he] at hcall
    obtain ⟨E, hrun, hreturned⟩ := Execution.returns_ok.mp hcall
    obtain ⟨_, _, ns, hns, rfl⟩ := Execution.run_ok.mp hrun
    exact ⟨ns, hrun, hns, hreturned⟩
  have hword := has_at hhas
  cases c with
  | register => cases hnames
  | deposit =>
    obtain rfl := Option.some.inj hnames
    obtain ⟨ns, hrun, hns, rfl⟩ := hreturns rfl
    obtain ⟨_, _, s, _, rfl⟩ := Execution.produced_deposit.mp hns
    exact ⟨_, _, rfl, hrun, hword 0 rfl rfl, hword 1 rfl rfl,
      .cons ⟨hword 2 rfl rfl, hword 4 rfl rfl⟩ .nil, .cons (hword 3 rfl rfl) .nil⟩
  | merge =>
    obtain rfl := Option.some.inj hnames
    obtain ⟨ns, hrun, hns, rfl⟩ := hreturns rfl
    obtain ⟨_, _, s, _, rfl⟩ := Execution.produced_merge.mp hns
    exact ⟨_, _, rfl, hrun, hword 0 rfl rfl, hword 1 rfl rfl,
      .cons ⟨hword 2 rfl rfl, hword 7 rfl rfl⟩ (.cons ⟨hword 3 rfl rfl, hword 8 rfl rfl⟩ .nil),
      .cons (hword 6 rfl rfl) .nil⟩
  | transfer =>
    obtain rfl := Option.some.inj hnames
    obtain ⟨ns, hrun, hns, rfl⟩ := hreturns rfl
    obtain ⟨_, _, _, s, _, rfl⟩ := Execution.produced_transfer.mp hns
    exact ⟨_, _, rfl, hrun, hword 0 rfl rfl, hword 1 rfl rfl,
      .cons ⟨hword 3 rfl rfl, hword 8 rfl rfl⟩ .nil,
      .cons (hword 6 rfl rfl) (.cons (hword 7 rfl rfl) .nil)⟩
  | withdraw =>
    obtain rfl := Option.some.inj hnames
    obtain ⟨ns, hrun, hns, rfl⟩ := hreturns rfl
    obtain ⟨_, _, _, s, _, rfl⟩ := Execution.produced_withdraw.mp hns
    exact ⟨_, _, rfl, hrun, hword 0 rfl rfl, hword 1 rfl rfl,
      .cons ⟨hword 2 rfl rfl, hword 6 rfl rfl⟩ .nil, .cons (hword 5 rfl rfl) .nil⟩

/-- what the file gives for a parameter is the one value of the request -/
theorem gives_of_toml {v : String → Field} (hvalid : r.Built)
    (h : ∀ q ∈ r.operation.parameters, ∃ digits,
      GivenOnce (encodeToml (.fromRequest r)) q.1 digits ∧ hexValue digits = (v q.1).val) :
    r.Gives v := by
  intro q hq
  obtain ⟨digits, honce, hdigits⟩ := h q hq
  obtain ⟨_, hassignments⟩ := assignments_encodeToml (.fromRequest r) hvalid.publicInputs.valid
  unfold GivenOnce at honce
  rw [hassignments] at honce
  have hvalue (e : String × FieldValue) (he : e ∈ (WitnessData.fromRequest r).values)
      (hname : e.1 = q.1) : e.2.hex.toList = digits := by
    have hmem : (e.1, e.2.hex.toList) ∈ [(q.1, digits)] := by
      rw [← honce]
      exact List.mem_filter.mpr ⟨List.mem_map.mpr ⟨e, he, rfl⟩, decide_eq_true hname⟩
    exact (Prod.mk.inj (List.mem_singleton.mp hmem)).2
  have hgiven : (q.1, digits) ∈ ((WitnessData.fromRequest r).values.map
      fun e => (e.1, e.2.hex.toList)).filter fun e => e.1 = q.1 := by
    rw [honce]
    exact List.mem_cons_self
  obtain ⟨e, he, heq⟩ := List.mem_map.mp (List.mem_filter.mp hgiven).1
  obtain ⟨hname, hhex⟩ := Prod.mk.inj heq
  refine ⟨e.2, ?_, ?_, fun other hother hsame => ?_⟩
  · rw [FieldValue.number, hhex, hdigits]
  · rw [← hname]
    exact he
  · refine FieldValue.eq_of_number ?_
    rw [FieldValue.number, FieldValue.number, hvalue other hother hsame, hhex]

end

/-- **A response says what an execution of its circuit does.**  Of a request with the label of its
circuit, on tools that run the circuits of the source: `main` accepts the values of the request,
each parameter given once; the names of the response carry its public parameters and what it
returns; and what they say of a ledger, by name, is the effect of that execution. -/
theorem response_effect {std : Std} {p : UltraHonkProvider} {m : Machine} {r : ProofRequest}
    {response : ProofResponse} {disk : Disk} (hcircuits : Circuits std p m) (hbuilt : r.Built)
    (hcircuit : r.circuit = .forOperation r.operation)
    (hgen : p.generate m r = (.ok response, disk)) :
    ∃ v returned, r.Gives v ∧ r.operation.call std v = .ok returned ∧
      List.Forall₂ response.publicOutputs.Has (expectations r.operation).publicNames
        (r.operation.publicValues v returned) ∧
      ∀ names, r.operation.effectNames = some names → ∃ e E, r.operation.execution v = some e ∧
        e.run std = .ok E ∧ names.Read response.publicOutputs E := by
  obtain ⟨named, hnamed, _, hrespond⟩ := UltraHonkProvider.generate_ok.mp hgen
  obtain ⟨bb, _, witness, _, hgate, _, hsolve, _, hprove, hnames⟩ :=
    UltraHonkProvider.proveNamed_ok.mp hnamed
  obtain ⟨_, _, hresponse⟩ := bind_ok.mp hrespond
  obtain rfl := pure_ok.mp hresponse
  obtain ⟨run, hrun, hsuccess, hread, _⟩ := prove_ok hprove
  have hsolves : m.nargo.Solves r.circuit.id (encodeToml (.fromRequest r)) witness.content :=
    UltraHonkProvider.solveWitness_ok hsolve
  have hproves : m.Proves named.pinned.bytecode.content witness.content named.artifacts :=
    ⟨run, _, hrun, hsuccess, hread⟩
  obtain ⟨hplain, _⟩ := assignments_encodeToml (.fromRequest r) hbuilt.publicInputs.valid
  rw [hcircuit] at hsolves
  obtain ⟨v, returned, hgiven, hcall, hnumbers⟩ := hcircuits.ran _ _ _ hplain hsolves r bb
    named.pinned named.artifacts hcircuit hgate hproves
  have hhas := has_of_words (hcircuits.words _ _ _ hproves) hnumbers hnames
  exact ⟨v, returned, gives_of_toml hbuilt hgiven, hcall, hhas,
    fun names hsome => read_of_values hcall hsome hhas⟩

/-! ## the recorded deposit -/

/-- `old_amount`, `amount` and the rest as they are recorded -/
def depositWitness : PrivateWitnessBag where
  bag := ⟨[("account_sk", ⟨⟨"1234", by decide⟩⟩), ("old_amount", ⟨⟨"3e8", by decide⟩⟩),
    ("old_blinding", ⟨⟨"5", by decide⟩⟩), ("amount", ⟨⟨"1f4", by decide⟩⟩),
    ("blinding", ⟨⟨"9", by decide⟩⟩)]⟩
  wellFormed := ⟨by decide, by decide⟩

theorem token_canonical : Canonical maxHexLen "746f6b656e".toList := by decide

theorem account_canonical : Canonical maxHexLen
    "6871944eb38ea75866d42609302692a55e12cf7620a50f2cf03381b9b382b72".toList := by decide

theorem commitment_canonical : Canonical maxHexLen
    "76db33552d93aa30f635808d1ca29a8e03dd1f5f396bf2caf7df85a8038e2d0".toList := by decide

def depositInputs : PublicInputBag :=
  ⟨[("token_address", ⟨"746f6b656e", token_canonical⟩),
    ("account_address", ⟨"6871944eb38ea75866d42609302692a55e12cf7620a50f2cf03381b9b382b72",
      account_canonical⟩),
    ("old_commitment", ⟨"76db33552d93aa30f635808d1ca29a8e03dd1f5f396bf2caf7df85a8038e2d0",
      commitment_canonical⟩)]⟩

def depositRequest : ProofRequest :=
  { sampleRequest .deposit .deposit with witness := depositWitness, publicInputs := depositInputs }

def depositToml : String := encodeToml (.fromRequest depositRequest)

/-- the words that `bb` reports of it -/
def depositWords : List String :=
  ["0x000000000000000000000000000000000000000000000000000000746f6b656e",
    "0x06871944eb38ea75866d42609302692a55e12cf7620a50f2cf03381b9b382b72",
    "0x076db33552d93aa30f635808d1ca29a8e03dd1f5f396bf2caf7df85a8038e2d0",
    "0x2ada0e1d82b51171a820c69368c30cba60b0bfec8537ef5b84d09f99ed50dce9",
    "0x2c90bd0611da2c636e3c6c872866e363641a0ed7c3e063384311fa2add839740"]

/-- `nargo` solves the recorded values, and `bb` reports the recorded words -/
def depositMachine : Machine :=
  let m := labelMachine .deposit .deposit
  { m with
    nargo := { m.nargo with
      execute := fun package toml =>
        .ok { success := package = "deposit" ∧ toml = depositToml, code := some 0, stdout := ""
              witness := some [] } }
    parsePublicInputs := fun _ => .ok
      { publicInputs := depositWords, bbVersion := testedBbVersion, scheme := schemeUltraHonk } }

theorem deposit_checkRequest : UltraHonkProvider.checkRequest depositRequest = .ok () := by
  have hno : depositRequest.publicInputs.get "root_hi" = none := rfl
  have hvalid : depositRequest.validate = .ok () :=
    ProofRequest.validate_ok.mpr ⟨rfl, rfl, fun _ => ⟨_, rfl⟩, fun _ _ _ _ hhi _ => by
      rw [hno] at hhi
      cases hhi⟩
  have hsupports : UltraHonkBackend.supports (.forOperation .deposit) ⟨0, 1, 0⟩ := by decide
  simp only [UltraHonkProvider.checkRequest, bind_ok, mapError_ok, ensure_ok, exists_const]
  exact ⟨(), hvalid, rfl, hsupports⟩

/-- the artifact that is loaded depends on the circuit and its version, not on the values -/
theorem loadPinned_congr {p : UltraHonkProvider} {m m' : Machine} {r r' : ProofRequest}
    (hartifacts : m'.artifacts = m.artifacts) (hparse : m'.parseManifest = m.parseManifest)
    (hlossy : m'.lossy = m.lossy) (hsha : m'.host.disk.sha256 = m.host.disk.sha256)
    (hcircuit : r'.circuit = r.circuit) (hversion : r'.circuitVersion = r.circuitVersion) :
    p.loadPinned m' r' = p.loadPinned m r := by
  have hfailure : artifactFailure r' = artifactFailure r := by
    funext e
    unfold artifactFailure
    rw [hcircuit, hversion]
  unfold UltraHonkProvider.loadPinned UltraHonkProvider.artifactDir Machine.crates
  rw [hfailure, hartifacts, hparse, hlossy, hsha, hcircuit, hversion]

theorem deposit_gate : sampleProvider.gate depositMachine depositRequest
    = .ok ("bb", samplePinned (sampleIdentity .deposit) .deposit) := by
  have hsample := @sample_gate (sampleIdentity .deposit) .deposit .deposit
    (expectations .deposit).publicNames.length
  obtain ⟨_, _, _, hsample⟩ := UltraHonkProvider.gate_ok hsample
  have hpinned : sampleProvider.loadPinned depositMachine depositRequest
      = .ok (samplePinned (sampleIdentity .deposit) .deposit) := by
    rw [← hsample]
    exact loadPinned_congr rfl rfl rfl rfl rfl rfl
  have htools : UltraHonkProvider.locateToolchains depositMachine = .ok "bb" := rfl
  refine bind_ok.mpr ⟨(), deposit_checkRequest, bind_ok.mpr ⟨_, mapError_ok.mpr htools, ?_⟩⟩
  exact bind_ok.mpr ⟨_, mapError_ok.mpr hpinned, rfl⟩

def depositOutputs : OutputBag :=
  ⟨depositInputs.entries ++ [("new_commitment",
      ⟨"2ada0e1d82b51171a820c69368c30cba60b0bfec8537ef5b84d09f99ed50dce9", by decide⟩),
    ("nullifier",
      ⟨"2c90bd0611da2c636e3c6c872866e363641a0ed7c3e063384311fa2add839740", by decide⟩)]⟩

theorem deposit_nameOutputs :
    UltraHonkProvider.nameOutputs depositRequest depositWords = .ok depositOutputs := by
  decide +kernel

theorem deposit_solveWitness : sampleProvider.solveWitness depositMachine depositRequest ["scratch"]
    = .ok ⟨["scratch", "deposit", "target", "witness.gz"], []⟩ := by
  have hsuccess : decide ("deposit" = "deposit" ∧ depositToml = depositToml) = true :=
    decide_eq_true ⟨rfl, rfl⟩
  have hexecute : depositMachine.nargo.execute "deposit" depositToml
      = .ok { success := true, code := some 0, stdout := "", witness := some [] } := by
    rw [← hsuccess]
    rfl
  have hcaptured : depositMachine.nargo.executeCaptured ["scratch", "deposit"] "deposit" depositToml
      "witness" = .ok
        { solved := true, exitCode := some 0, stdout := ""
          witness := some ⟨["scratch", "deposit", "target", "witness.gz"], []⟩ } :=
    bind_ok.mpr ⟨(), rfl, bind_ok.mpr ⟨_, mapError_ok.mpr hexecute, rfl⟩⟩
  refine bind_ok.mpr ⟨(), rfl, bind_ok.mpr ⟨(), rfl, bind_ok.mpr ⟨(), rfl, ?_⟩⟩⟩
  refine bind_ok.mpr ⟨(), rfl, bind_ok.mpr ⟨_, mapError_ok.mpr hcaptured, ?_⟩⟩
  exact bind_ok.mpr ⟨(), rfl, rfl⟩

def depositNamed : Named where
  pinned := samplePinned (sampleIdentity .deposit) .deposit
  artifacts :=
    { outputDir := ["out"]
      proof := sampleProof
      publicInputs :=
        { publicInputs := depositWords, bbVersion := testedBbVersion, scheme := schemeUltraHonk }
      vk := some sampleKey }
  publicOutputs := depositOutputs

theorem deposit_prove : prove depositMachine "bb" depositNamed.pinned.bytecode
    ⟨["scratch", "deposit", "target", "witness.gz"], []⟩ ["out"] true
      = .ok depositNamed.artifacts := by
  have hcheck : checkDocuments depositNamed.artifacts = .ok () := by decide +kernel
  refine bind_ok.mpr ⟨(), rfl, bind_ok.mpr ⟨(), rfl, bind_ok.mpr ⟨(), rfl, ?_⟩⟩⟩
  refine bind_ok.mpr ⟨(), rfl, bind_ok.mpr ⟨_, rfl, bind_ok.mpr ⟨(), rfl, ?_⟩⟩⟩
  exact bind_ok.mpr ⟨_, rfl, bind_ok.mpr ⟨(), hcheck, rfl⟩⟩

def depositResponse : ProofResponse :=
  { labelResponse .deposit .deposit with publicOutputs := depositOutputs }

theorem deposit_generate : sampleProvider.generate depositMachine depositRequest
    = (.ok depositResponse, labelDisk .deposit) := by
  have hnamed : sampleProvider.proveNamed depositMachine depositRequest = .ok depositNamed :=
    UltraHonkProvider.proveNamed_ok.mpr ⟨_, _, _, _, deposit_gate, rfl, deposit_solveWitness, rfl,
      deposit_prove, deposit_nameOutputs⟩
  have hbytes : Exec.concatWords sampleProof.proof = .ok (List.replicate 31 0 ++ [1]) := by
    decide +kernel
  refine UltraHonkProvider.generate_ok.mpr ⟨_, hnamed, ?_, ?_⟩
  · rfl
  · exact bind_ok.mpr ⟨_, mapError_ok.mpr hbytes, rfl⟩

theorem deposit_built : depositRequest.Built where
  circuit := sample_built.circuit
  backend := sample_built.backend
  publicInputs := ⟨by decide, by decide⟩
  root := sample_built.root

/-- the digits of the recorded values -/
def depositDigits (name : String) : List Char :=
  match (WitnessData.fromRequest depositRequest).values.lookup name with
  | some value => value.hex.toList
  | none => []

theorem deposit_given {name : String} (h : name ∈ Operation.deposit.parameters.map Prod.fst) :
    GivenOnce depositToml name (depositDigits name) := by
  have hassignments :=
    (assignments_encodeToml (.fromRequest depositRequest) deposit_built.publicInputs.valid).2
  unfold GivenOnce
  rw [depositToml, hassignments]
  revert name
  decide +kernel

/-- the recorded executions are what the tools of the machine run -/
theorem deposit_circuits : Circuits Std.vectors sampleProvider depositMachine where
  ran := by
    rintro op toml witness _ ⟨run, hrun, hsuccess, _⟩ r bb pinned artifacts _ _
      ⟨proved, dir, hproved, _, hread⟩
    obtain rfl := Except.ok.inj hrun
    obtain ⟨hop, rfl⟩ := of_decide_eq_true hsuccess
    obtain rfl := Operation.asStr_injective (show op.asStr = Operation.deposit.asStr from hop)
    obtain rfl := Except.ok.inj hproved
    obtain rfl := Except.ok.inj hread
    refine ⟨fun name => felt (hexValue (depositDigits name)),
      [felt 0x2ada0e1d82b51171a820c69368c30cba60b0bfec8537ef5b84d09f99ed50dce9,
        felt 0x2c90bd0611da2c636e3c6c872866e363641a0ed7c3e063384311fa2add839740], ?_, ?_, ?_⟩
    · intro q hq
      refine ⟨_, deposit_given (List.mem_map_of_mem hq), ?_⟩
      revert q
      decide +kernel
    · decide +kernel
    · show depositWords.map wordNumber = _
      decide +kernel
  words := by
    rintro bytecode witness artifacts ⟨proved, dir, hproved, _, hread⟩
    obtain rfl := Except.ok.inj hproved
    obtain rfl := Except.ok.inj hread
    have hwords : ∀ word ∈ depositWords, word.toList = "0x".toList ++ word.toList.drop 2 ∧
        word.toList.drop 2 ≠ [] ∧ (word.toList.drop 2).length ≤ 64 ∧
        (word.toList.drop 2).all isHexDigit := by decide +kernel
    exact fun word hword => ⟨_, hwords word hword⟩

theorem response_effect_deposit : ∃ (names : EffectNames) (e : Execution) (E : Effect),
    Operation.deposit.effectNames = some names ∧ e.run Std.vectors = .ok E ∧
      names.Read depositResponse.publicOutputs E := by
  obtain ⟨_, _, _, _, _, hread⟩ :=
    response_effect deposit_circuits deposit_built rfl deposit_generate
  obtain ⟨e, E, _, hrun, hnames⟩ := hread _ rfl
  exact ⟨_, e, E, rfl, hrun, hnames⟩

end Crucible
