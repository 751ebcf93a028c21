import Crucible.Vectors.Requests
import Mathlib.Data.List.Induction

/-!
# The values of vector files (`crates/vectors/src/lib.rs`)

Loading canonicalizes every text that `FieldValue::from_hex` reads, and it reads more than the
canonical ones.

* `RawVector.places`       the values of a file, with how an error names their fields;
* `StopsAtValue`           a text that is not read comes before every name that is not inserted;
* `bagRun`, `loadRun`      how canonicalizing a bag ends, and how loading does;
* `canonical_only_iff`     so a file with other values is refused for one of them exactly where a
                           text that is not read comes first.
-/

namespace Crucible
open Checked Text Serde

/-! ## the values of a file -/

/-- a value, and how an error begins that names its field -/
structure Place where
  naming : String
  hex : String

def RawBag.places (context : String) (raw : RawBag) : List Place :=
  raw.entries.map fun e => ⟨s!"{context}: field `{e.1}`: ", e.2⟩

/-- how the errors about a vector begin, and those about its bags -/
def RawVector.context (raw : RawVector) : String := s!"vector `{raw.id}`"
def RawVector.publicContext (raw : RawVector) : String := s!"{raw.context}: public inputs"
def RawVector.outputContext (raw : RawVector) : String := s!"{raw.context}: expected_public_outputs"

/-- the private values as the document writes them: all of a name, of which the map keeps one -/
def writtenSecrets (json : Json) : List (String × String) :=
  match (json.part ["id", "operation", "category", "description", "circuit", "circuit_version",
      "witness", "expected_public_outputs", "state_reference", "expect_verification"]
      "witness").bind fun j => j.part ["operation", "private", "public"] "private" with
  | some (.obj fields) => fields.filterMap fun field => field.2.string.map fun s => (field.1, s)
  | _ => []

/-- the private, public and expected values of a file -/
def RawVector.places (json : Json) (raw : RawVector) : List Place :=
  (writtenSecrets json).map (fun e => ⟨s!"{raw.context}: secret `{e.1}`: ", e.2⟩) ++
    raw.witness.pub.places raw.publicContext ++ raw.expectedOutputs.places raw.outputContext

def Place.IsCanonical (p : Place) : Prop := Canonical maxHexLen p.hex.toList

/-- the failure of loading that is about the value of the field -/
def Place.Named (path : String) (p : Place) (fault : Fault String) : Prop :=
  ∃ err : FieldError, fault = .error s!"{p.naming ++ err.message} (in `{path}`)"

/-! ## texts that are read -/

section
variable {s : String}

theorem FieldValue.fromHex_cases (s : String) :
    (IsFieldText s.toList ∧ ∃ v, fromHex s = .ok v) ∨
      (¬ IsFieldText s.toList ∧ ∃ err, fromHex s = .error err) := by
  have hnone := fromHex_eq_none_iff s.toList
  rw [String.ofList_toList] at hnone
  cases h : fromHex s with
  | ok v =>
    rw [h] at hnone
    refine Or.inl ⟨not_not.mp fun hno => ?_, v, rfl⟩
    cases hnone.mpr hno
  | error err =>
    rw [h] at hnone
    exact Or.inr ⟨hnone.mp rfl, err, rfl⟩

theorem isFieldText_of_canonical (h : Canonical maxHexLen s.toList) : IsFieldText s.toList := by
  rcases FieldValue.fromHex_cases s with hread | ⟨_, err, herr⟩
  · exact hread.1
  · rw [FieldValue.fromHex_hex ⟨s, h⟩] at herr
    cases herr

end

/-! ## private values -/

theorem insertPrivate_of_isFieldText {context : String} {m : SortedMap String String}
    {e : String × String} (h : IsFieldText e.2.toList) :
    ∃ m', insertPrivate context m e = .ok m' := by
  rcases FieldValue.fromHex_cases e.2 with ⟨_, v, hv⟩ | ⟨hno, _⟩
  · refine ⟨m.insert e.1 v.hex, ?_⟩
    unfold insertPrivate SecretValue.fromHex
    rw [hv]
    rfl
  · exact absurd h hno

theorem insertPrivate_of_not {context : String} {m : SortedMap String String}
    {e : String × String} (h : ¬ IsFieldText e.2.toList) : ∃ err : FieldError,
      insertPrivate context m e = .error (s!"{context}: secret `{e.1}`: " ++ err.message) := by
  rcases FieldValue.fromHex_cases e.2 with ⟨hread, _⟩ | ⟨_, err, herr⟩
  · exact absurd hread h
  · refine ⟨err, ?_⟩
    unfold insertPrivate SecretValue.fromHex
    rw [herr]
    rfl

/-- the private values are read, or one of them is not and is named -/
theorem foldlM_insertPrivate (context : String) (es : List (String × String))
    (m : SortedMap String String) :
    ((∀ e ∈ es, IsFieldText e.2.toList) ∧ ∃ m', es.foldlM (insertPrivate context) m = .ok m') ∨
      ∃ e ∈ es, ¬ IsFieldText e.2.toList ∧ ∃ err : FieldError,
        es.foldlM (insertPrivate context) m
          = .error (s!"{context}: secret `{e.1}`: " ++ err.message) := by
  induction es generalizing m with
  | nil => exact Or.inl ⟨fun _ h => absurd h List.not_mem_nil, m, rfl⟩
  | cons e es ih =>
    rw [List.foldlM_cons]
    by_cases he : IsFieldText e.2.toList
    · obtain ⟨next, hnext⟩ := insertPrivate_of_isFieldText he
      rw [hnext]
      rcases ih next with ⟨hes, hrun⟩ | ⟨e', he', hrun⟩
      · exact Or.inl ⟨List.forall_mem_cons.mpr ⟨he, hes⟩, hrun⟩
      · exact Or.inr ⟨e', List.mem_cons_of_mem _ he', hrun⟩
    · obtain ⟨err, herr⟩ := insertPrivate_of_not he
      rw [herr]
      exact Or.inr ⟨e, List.mem_cons_self, he, err, rfl⟩

/-- what a map holds is written -/
theorem mem_of_readMap {fields : List (String × Json)} {m m' : SortedMap String String}
    (h : fields.foldlM (fun m field => do return m.insert field.1 (← fromJson field.2)) m = .ok m')
    {e : String × String} (he : e ∈ m'.entries) :
    e ∈ m.entries ∨ e ∈ fields.filterMap fun field => field.2.string.map fun s => (field.1, s) := by
  induction fields generalizing m with
  | nil =>
    obtain rfl := pure_ok.mp h
    exact Or.inl he
  | cons field fields ih =>
    rw [List.foldlM_cons] at h
    obtain ⟨next, hnext, hrest⟩ := bind_ok.mp h
    obtain ⟨s, hs, hnext⟩ := bind_ok.mp hnext
    obtain rfl := pure_ok.mp hnext
    have hstring : field.2.string.map (fun s => (field.1, s)) = some (field.1, s) := by
      rw [string_ok.mp hs]
      rfl
    rw [List.filterMap_cons, hstring]
    rcases ih hrest with hmem | hmem
    · rcases SortedMap.mem_insertEntry hmem with rfl | hmem
      · exact Or.inr List.mem_cons_self
      · exact Or.inl hmem
    · exact Or.inr (List.mem_cons_of_mem _ hmem)

/-- the private values that are read are written -/
theorem mem_writtenSecrets {json : Json} {raw : RawVector}
    (hraw : (fromJson json : Except String RawVector) = .ok raw) {e : String × String}
    (he : e ∈ raw.witness.priv.entries) : e ∈ writtenSecrets json := by
  obtain ⟨fields, hfields, hraw⟩ := bind_ok.mp hraw
  obtain ⟨_, _, hraw⟩ := bind_ok.mp hraw
  obtain ⟨_, _, hraw⟩ := bind_ok.mp hraw
  obtain ⟨_, _, hraw⟩ := bind_ok.mp hraw
  obtain ⟨_, _, hraw⟩ := bind_ok.mp hraw
  obtain ⟨_, _, hraw⟩ := bind_ok.mp hraw
  obtain ⟨_, _, hraw⟩ := bind_ok.mp hraw
  obtain ⟨witness, hwitness, hraw⟩ := bind_ok.mp hraw
  obtain ⟨_, _, hraw⟩ := bind_ok.mp hraw
  obtain ⟨_, _, hraw⟩ := bind_ok.mp hraw
  obtain ⟨_, _, hraw⟩ := bind_ok.mp hraw
  obtain rfl := pure_ok.mp hraw
  obtain ⟨j, hlookup, hwitness⟩ := required_ok.mp hwitness
  obtain ⟨parts, hparts, hwitness⟩ := bind_ok.mp hwitness
  obtain ⟨_, _, hwitness⟩ := bind_ok.mp hwitness
  obtain ⟨priv, hpriv, hwitness⟩ := bind_ok.mp hwitness
  obtain ⟨_, _, hwitness⟩ := bind_ok.mp hwitness
  obtain rfl := pure_ok.mp hwitness
  obtain ⟨secrets, hsecrets, hread⟩ := required_ok.mp hpriv
  unfold writtenSecrets
  rw [part_of_fieldsOf hfields, hlookup, Option.bind_some, part_of_fieldsOf hparts, hsecrets]
  cases secrets with
  | obj fields =>
    rcases mem_of_readMap hread he with hmem | hmem
    · exact absurd hmem List.not_mem_nil
    · exact hmem
  | _ => cases hread

/-! ## bags -/

/-- names that are inserted one after the other -/
def Insertable (entries : List (String × String)) : Prop :=
  (∀ e ∈ entries, validateName e.1 = .ok ()) ∧ (entries.map Prod.fst).Nodup

/-- a text that is not read, behind names that are inserted only -/
def StopsAtValue (entries : List (String × String)) : Prop :=
  ∃ before e behind, entries = before ++ e :: behind ∧ Insertable before ∧
    ¬ IsFieldText e.2.toList

section
variable {es : List (String × String)} {e : String × String}

theorem insertable_concat : Insertable (es ++ [e]) ↔
    Insertable es ∧ validateName e.1 = .ok () ∧ e.1 ∉ es.map Prod.fst := by
  unfold Insertable
  rw [List.map_append, List.forall_mem_append, List.forall_mem_singleton, List.map_singleton,
    List.nodup_append]
  constructor
  · rintro ⟨⟨hvalid, he⟩, hnodup, _, hdisjoint⟩
    exact ⟨⟨hvalid, hnodup⟩, he, fun hmem => hdisjoint e.1 hmem e.1 List.mem_cons_self rfl⟩
  · rintro ⟨⟨hvalid, hnodup⟩, he, hnew⟩
    refine ⟨⟨hvalid, he⟩, hnodup, List.nodup_singleton _, fun name hname other hother heq => ?_⟩
    rw [heq, List.mem_singleton.mp hother] at hname
    exact hnew hname

theorem stopsAtValue_concat : StopsAtValue (es ++ [e]) ↔
    StopsAtValue es ∨ (Insertable es ∧ ¬ IsFieldText e.2.toList) := by
  constructor
  · rintro ⟨before, stop, behind, heq, hbefore, hstop⟩
    rcases List.eq_nil_or_concat behind with rfl | ⟨init, last, rfl⟩
    · obtain ⟨rfl, hlast⟩ := List.append_inj' heq rfl
      obtain rfl := List.singleton_inj.mp hlast
      exact Or.inr ⟨hbefore, hstop⟩
    · rw [List.concat_eq_append, ← List.cons_append, ← List.append_assoc] at heq
      obtain ⟨rfl, _⟩ := List.append_inj' heq rfl
      exact Or.inl ⟨before, stop, init, rfl, hbefore, hstop⟩
  · rintro (⟨before, stop, behind, rfl, hbefore, hstop⟩ | ⟨hes, he⟩)
    · exact ⟨before, stop, behind ++ [e], by simp, hbefore, hstop⟩
    · exact ⟨es, e, [], rfl, hes, he⟩

end

/-- an error about a name -/
def FieldError.OfName (err : FieldError) : Prop := ∀ reason, err ≠ .invalidHex reason

theorem Bag.insert_fails {b : PublicInputBag} {name : String} {value : FieldValue} :
    Fails FieldError.OfName (b.insert name value) := by
  have hlength : (FieldError.invalidNameLength 64).OfName := fun _ h => by cases h
  have hchars : FieldError.invalidNameCharacters.OfName := fun _ h => by cases h
  have hduplicate : (FieldError.duplicateName name).OfName := fun _ h => by cases h
  refine .bind (.bind (fails_ensure hlength) fun _ => fails_ensure hchars) fun _ => ?_
  exact .bind (fails_ensure hduplicate) fun _ => fails_ok

section
variable {context : String} {b : PublicInputBag} {e : String × String}

theorem insertPublic_of_not (h : ¬ IsFieldText e.2.toList) : ∃ err : FieldError,
    insertPublic context b e = .error (s!"{context}: field `{e.1}`: " ++ err.message) := by
  rcases FieldValue.fromHex_cases e.2 with ⟨hread, _⟩ | ⟨_, err, herr⟩
  · exact absurd hread h
  · refine ⟨err, ?_⟩
    rw [insertPublic, herr]
    rfl

theorem insertPublic_of_name (h : IsFieldText e.2.toList) (hvalid : validateName e.1 = .ok ())
    (hnew : e.1 ∉ b.names) : ∃ b', insertPublic context b e = .ok b' := by
  rcases FieldValue.fromHex_cases e.2 with ⟨_, v, hv⟩ | ⟨hno, _⟩
  · refine ⟨⟨b.entries ++ [(e.1, v)]⟩, ?_⟩
    rw [insertPublic, hv]
    exact mapError_ok.mpr (Bag.insert_new hvalid hnew)
  · exact absurd h hno

theorem insertPublic_of_not_name (h : IsFieldText e.2.toList)
    (hname : ¬ (validateName e.1 = .ok () ∧ e.1 ∉ b.names)) : ∃ err : FieldError, err.OfName ∧
      insertPublic context b e = .error (s!"{context}: " ++ err.message) := by
  rcases FieldValue.fromHex_cases e.2 with ⟨_, v, hv⟩ | ⟨hno, _⟩
  · cases hinsert : b.insert e.1 v with
    | ok b' =>
      obtain ⟨hvalid, hnew, _⟩ := Bag.insert_ok.mp hinsert
      exact absurd ⟨hvalid, hnew⟩ hname
    | error err =>
      refine ⟨err, Bag.insert_fails err hinsert, ?_⟩
      rw [insertPublic, hv]
      exact mapError_error.mpr ⟨err, hinsert, rfl⟩
  · exact absurd h hno

end

/-- how canonicalizing the entries of a bag ends -/
inductive BagRun (context : String) (es : List (String × String)) :
    Except String PublicInputBag → Prop where
  | inserted (hstops : ¬ StopsAtValue es) (hnames : Insertable es) (b : PublicInputBag) :
    BagRun context es (.ok b)
  | rejected (hstops : StopsAtValue es) {e : String × String} (he : e ∈ es)
    (hvalue : ¬ IsFieldText e.2.toList) (err : FieldError) :
    BagRun context es (.error (s!"{context}: field `{e.1}`: " ++ err.message))
  | misnamed (hstops : ¬ StopsAtValue es) (hnames : ¬ Insertable es) {err : FieldError}
    (herr : err.OfName) : BagRun context es (.error (s!"{context}: " ++ err.message))

/-- one more entry -/
theorem BagRun.concat {context : String} {es : List (String × String)} {e : String × String}
    {run : Except String PublicInputBag} (h : BagRun context es run)
    (hnames : ∀ b, run = .ok b → b.names = es.map Prod.fst) :
    BagRun context (es ++ [e]) (run >>= fun b => insertPublic context b e) := by
  cases h with
  | rejected hstops he hvalue err =>
    exact .rejected (stopsAtValue_concat.mpr (Or.inl hstops)) (List.mem_append_left _ he) hvalue err
  | misnamed hstops hmisnamed herr =>
    refine .misnamed (fun h => ?_) (fun h => hmisnamed (insertable_concat.mp h).1) herr
    rcases stopsAtValue_concat.mp h with h | h
    · exact hstops h
    · exact hmisnamed h.1
  | inserted hstops hinsertable b =>
    have hbag := hnames b rfl
    show BagRun context (es ++ [e]) (insertPublic context b e)
    by_cases htext : IsFieldText e.2.toList
    · have hgoes : ¬ StopsAtValue (es ++ [e]) := by
        rw [stopsAtValue_concat, not_or]
        exact ⟨hstops, fun h => h.2 htext⟩
      by_cases hname : validateName e.1 = .ok () ∧ e.1 ∉ b.names
      · obtain ⟨b', hb'⟩ := insertPublic_of_name htext hname.1 hname.2
        rw [hb']
        exact .inserted hgoes (insertable_concat.mpr ⟨hinsertable, hname.1, hbag ▸ hname.2⟩) b'
      · obtain ⟨err, herr, hrun⟩ := insertPublic_of_not_name htext hname
        rw [hrun]
        refine .misnamed hgoes (fun h => hname ?_) herr
        rw [hbag]
        exact (insertable_concat.mp h).2
    · obtain ⟨err, hrun⟩ := insertPublic_of_not htext
      rw [hrun]
      exact .rejected (stopsAtValue_concat.mpr (Or.inr ⟨hinsertable, htext⟩))
        (List.mem_append_right _ List.mem_cons_self) htext err

theorem bagRun (context : String) (es : List (String × String)) :
    BagRun context es (es.foldlM (insertPublic context) Bag.new) := by
  induction es using List.reverseRecOn with
  | nil =>
    refine .inserted ?_ ⟨fun _ h => absurd h List.not_mem_nil, List.nodup_nil⟩ Bag.new
    rintro ⟨before, e, behind, heq, _⟩
    exact absurd heq.symm (by simp)
  | append_singleton es e ih =>
    have hnames (b : PublicInputBag) (hrun : es.foldlM (insertPublic context) Bag.new = .ok b) :
        b.names = es.map Prod.fst := by
      obtain ⟨_, added, hentries, hread⟩ := insertPublic_foldlM Bag.new_wellFormed hrun
      rw [Bag.names, hentries]
      exact map_eq_of_forall₂ (hread.imp fun _ _ h => h.1)
    have hlast (b : PublicInputBag) :
        [e].foldlM (insertPublic context) b = insertPublic context b e := by
      rw [List.foldlM_cons]
      exact bind_pure _
    rw [List.foldlM_append]
    simp only [hlast]
    exact ih.concat hnames

/-! ## loading -/

/-- how an error goes on behind the id of the vector when it names a value -/
def namings : List (List Char) :=
  ["secret `".toList, "public inputs: field `".toList, "expected_public_outputs: field `".toList]

/-- a beginning of no error that names a value -/
def Apart (lead : String) : Prop :=
  ∀ naming ∈ namings, ¬ naming <+: lead.toList ∧ ¬ lead.toList <+: naming

instance (lead : String) : Decidable (Apart lead) :=
  inferInstanceAs (Decidable (∀ naming ∈ namings, _))

/-- what comes before -/
def marked (id : String) : String := s!"vector `{id}`: "

/-- an error that names no value -/
def Unnamed (id msg : String) : Prop :=
  ∃ lead, Apart lead ∧ (marked id).toList ++ lead.toList <+: msg.toList

section
variable {id lead text msg path : String} {json : Json} {raw : RawVector} {p : Place}

theorem prefix_append {cs : List Char} (tail : String) (h : cs <+: text.toList) :
    cs <+: (text ++ tail).toList := by
  rw [String.toList_append]
  exact h.trans (List.prefix_append _ _)

theorem unnamed_of_text (happart : Apart lead) (h : lead.toList <+: text.toList) :
    Unnamed id s!"vector `{id}`: {text}" := by
  refine ⟨lead, happart, ?_⟩
  show (marked id).toList ++ lead.toList <+: (marked id ++ text).toList
  rw [String.toList_append]
  exact (List.prefix_append_right_inj _).mpr h

/-- how a field of the file is named -/
theorem places_naming (h : p ∈ raw.places json) :
    ∃ naming ∈ namings, (marked raw.id).toList ++ naming <+: p.naming.toList := by
  unfold RawVector.places RawBag.places at h
  simp only [List.mem_append, List.mem_map] at h
  rcases h with (⟨e, _, rfl⟩ | ⟨e, _, rfl⟩) | ⟨e, _, rfl⟩
  · refine ⟨"secret `".toList, by decide, e.1.toList ++ "`: ".toList, ?_⟩
    simp [RawVector.context, marked, toString]
  · refine ⟨"public inputs: field `".toList, by decide, e.1.toList ++ "`: ".toList, ?_⟩
    simp [RawVector.publicContext, RawVector.context, marked, toString]
  · refine ⟨"expected_public_outputs: field `".toList, by decide, e.1.toList ++ "`: ".toList, ?_⟩
    simp [RawVector.outputContext, RawVector.context, marked, toString]

/-- an error that names no value is not about one -/
theorem Unnamed.not_named (h : Unnamed raw.id msg) (hp : p ∈ raw.places json) :
    ¬ p.Named path (.error msg) := by
  rintro ⟨err, heq⟩
  obtain ⟨lead, happart, hlead⟩ := h
  obtain ⟨naming, hnaming, hprefix⟩ := places_naming hp
  obtain rfl := Fault.error.inj heq
  have hmsg : (marked raw.id).toList ++ naming
      <+: (s!"{p.naming ++ err.message} (in `{path}`)").toList :=
    prefix_append _ (prefix_append _ (prefix_append _ (prefix_append _ hprefix)))
  rcases List.prefix_or_prefix_of_prefix hlead hmsg with h | h
  · exact (happart naming hnaming).2 ((List.prefix_append_right_inj _).mp h)
  · exact (happart naming hnaming).1 ((List.prefix_append_right_inj _).mp h)

theorem Unnamed.located (h : Unnamed id msg) : Unnamed id s!"{msg} (in `{path}`)" := by
  obtain ⟨lead, happart, hlead⟩ := h
  exact ⟨lead, happart, prefix_append _ (prefix_append _ (prefix_append _ hlead))⟩

/-- errors about names begin differently -/
theorem FieldError.OfName.message {err : FieldError} (h : err.OfName) :
    ∃ word ∈ ["field name", "duplicate field"], word.toList <+: err.message.toList := by
  cases err with
  | invalidHex reason => exact absurd rfl (h reason)
  | invalidNameLength max =>
    exact ⟨"field name", by decide, prefix_append _ (prefix_append _ (by decide))⟩
  | invalidNameCharacters => exact ⟨"field name", by decide, by decide⟩
  | duplicateName name => exact ⟨"duplicate field", by decide, prefix_append _ (by decide)⟩

theorem unnamed_of_ofName {context name : String} {err : FieldError} (h : err.OfName)
    (hcontext : context.toList = (marked id).toList ++ name.toList)
    (hname : ∀ word ∈ ["field name", "duplicate field"], Apart (name ++ ": " ++ word)) :
    Unnamed id (s!"{context}: " ++ err.message) := by
  obtain ⟨word, hword, tail, hmessage⟩ := h.message
  refine ⟨_, hname word hword, tail, ?_⟩
  simp [toString, hcontext, ← hmessage]

theorem unnamed_public {err : FieldError} (h : err.OfName) :
    Unnamed raw.id (s!"{raw.publicContext}: " ++ err.message) := by
  refine @unnamed_of_ofName _ _ "public inputs" _ h ?_ (by decide)
  simp [RawVector.publicContext, RawVector.context, marked, toString]

theorem unnamed_output {err : FieldError} (h : err.OfName) :
    Unnamed raw.id (s!"{raw.outputContext}: " ++ err.message) := by
  refine @unnamed_of_ofName _ _ "expected_public_outputs" _ h ?_ (by decide)
  simp [RawVector.outputContext, RawVector.context, marked, toString]

end

namespace TestVector

theorem fail_unnamed {id text : String} (lead : String) (happart : Apart lead)
    (h : lead.toList <+: text.toList) :
    ∀ msg, Fault.error s!"vector `{id}`: {text}" = .error msg → Unnamed id msg := by
  intro msg hmsg
  obtain rfl := Fault.error.inj hmsg
  exact unnamed_of_text happart h

theorem validateRoot_fails (v : TestVector) :
    Fails (fun fault => ∀ msg, fault = .error msg → Unnamed v.id msg) v.validateRoot := by
  unfold validateRoot
  dsimp only
  refine .bind (fails_fromOption ?_) fun state => .bind (fails_fromOption ?_) fun halves =>
    .bind (fails_fromOption ?_) fun hi => .bind (fails_fromOption ?_) fun lo =>
    .bind (fails_ensure ?_) fun _ => fails_ensure ?_
  · exact fail_unnamed "operation " (by decide)
      (prefix_append _ (prefix_append _ (by decide)))
  · intro msg hmsg
    cases hmsg
  · exact fail_unnamed "state-bound operation" (by decide) (by decide)
  · exact fail_unnamed "state-bound operation" (by decide) (by decide)
  · exact fail_unnamed "`root_hi`" (by decide)
      (prefix_append _ (prefix_append _ (prefix_append _ (by decide))))
  · exact fail_unnamed "`root_lo`" (by decide)
      (prefix_append _ (prefix_append _ (prefix_append _ (by decide))))

/-- the checks of the structure are about no value -/
theorem validateStructure_fails (v : TestVector) :
    Fails (fun fault => ∀ msg, fault = .error msg → Unnamed v.id msg) v.validateStructure := by
  unfold validateStructure
  dsimp only
  refine .bind (fails_ensure ?_) fun _ => .bind (fails_ensure ?_) fun _ =>
    .bind (fails_ensure ?_) fun _ => .bind (fails_ensure ?_) fun _ =>
    .bind (fails_ensureAll fun name _ => ?_) fun _ => .bind (fails_ensure ?_) fun _ =>
    .bind (fails_ensure ?_) fun _ => .bind ?_ fun _ => fails_ensure ?_
  · exact fail_unnamed "unknown category" (by decide)
      (prefix_append _ (prefix_append _ (by decide)))
  · exact fail_unnamed "circuit `" (by decide)
      (prefix_append _ (prefix_append _ (prefix_append _ (prefix_append _ (by decide)))))
  · exact fail_unnamed "witness operation" (by decide)
      (prefix_append _ (prefix_append _ (prefix_append _ (by decide))))
  · exact fail_unnamed "operation requires" (by decide) (by decide)
  · exact fail_unnamed "name `" (by decide)
      (prefix_append _ (prefix_append _ (by decide)))
  · exact fail_unnamed "category `valid`" (by decide) (by decide)
  · exact fail_unnamed "category `" (by decide)
      (prefix_append _ (prefix_append _ (by decide)))
  · split
    · exact v.validateRoot_fails
    · exact fails_ok
  · exact fail_unnamed "register has no" (by decide) (by decide)

end TestVector

/-- loading comes to a text that is not read before it comes to a name that is not inserted -/
def RawVector.Rejected (raw : RawVector) : Prop :=
  (∃ e ∈ raw.witness.priv.entries, ¬ IsFieldText e.2.toList) ∨
    StopsAtValue raw.witness.pub.entries ∨
    (Insertable raw.witness.pub.entries ∧ StopsAtValue raw.expectedOutputs.entries)

/-- how loading a file ends: it is refused for a value, or for something else, or it loads -/
inductive LoadRun (path : String) (json : Json) (raw : RawVector) :
    Except (Fault String) TestVector → Prop where
  | rejected (hraw : raw.Rejected) {p : Place} (hp : p ∈ raw.places json)
    (hvalue : ¬ IsFieldText p.hex.toList) {fault : Fault String} (hnamed : p.Named path fault) :
    LoadRun path json raw (.error fault)
  | failed (hraw : ¬ raw.Rejected) {fault : Fault String}
    (hfault : ∀ msg, fault = .error msg → Unnamed raw.id msg) : LoadRun path json raw (.error fault)
  | loaded (hraw : ¬ raw.Rejected) (v : TestVector) : LoadRun path json raw (.ok v)

section
variable {text : JsonText} {path : String} {bytes : List UInt8} {json : Json} {raw : RawVector}

theorem RawVector.privatePlace {e : String × String} (h : e ∈ writtenSecrets json) :
    ⟨s!"{raw.context}: secret `{e.1}`: ", e.2⟩ ∈ raw.places json :=
  List.mem_append_left _ (List.mem_append_left _ (List.mem_map.mpr ⟨e, h, rfl⟩))

theorem RawVector.publicPlace {e : String × String} (h : e ∈ raw.witness.pub.entries) :
    ⟨s!"{raw.publicContext}: field `{e.1}`: ", e.2⟩ ∈ raw.places json :=
  List.mem_append_left _ (List.mem_append_right _ (List.mem_map.mpr ⟨e, h, rfl⟩))

theorem RawVector.outputPlace {e : String × String} (h : e ∈ raw.expectedOutputs.entries) :
    ⟨s!"{raw.outputContext}: field `{e.1}`: ", e.2⟩ ∈ raw.places json :=
  List.mem_append_right _ (List.mem_map.mpr ⟨e, h, rfl⟩)

/-- the vector of a file whose values have been read -/
def RawVector.vector (raw : RawVector) (witness : Witness)
    (expectedPublicOutputs : PublicInputBag) : TestVector where
  id := raw.id
  operation := raw.operation
  category := raw.category
  description := raw.description
  circuit := raw.circuit
  circuitVersion := raw.circuitVersion
  witness := witness
  expectedPublicOutputs := expectedPublicOutputs
  stateReference := raw.stateReference
  expectVerification := raw.expectVerification

theorem load_eq (hjson : text.parse bytes = .ok json)
    (hraw : (fromJson json : Except String RawVector) = .ok raw) :
    TestVector.load text path (.ok bytes) = do
      let located (e : String) : String := s!"{e} (in `{path}`)"
      let witness ← (raw.witness.intoWitness raw.context).mapError fun e =>
        Fault.error (located e)
      let outputs ← (raw.expectedOutputs.intoBag raw.outputContext).mapError fun e =>
        Fault.error (located e)
      (raw.vector witness outputs).validateStructure.mapError (Fault.map located)
      return raw.vector witness outputs := by
  unfold TestVector.load
  show ((text.parse bytes).mapError _ >>= _) = _
  rw [hjson]
  show ((fromJson json : Except String RawVector).mapError _ >>= _) = _
  rw [hraw]
  rfl

theorem intoWitness_eq {raw : RawWitness} {context : String} {priv : SortedMap String String}
    (h : raw.priv.entries.foldlM (insertPrivate context) SortedMap.empty = .ok priv) :
    raw.intoWitness context = do
      return { operation := raw.operation, priv
               pub := ← raw.pub.intoBag s!"{context}: public inputs" } := by
  unfold RawWitness.intoWitness
  rw [h]
  rfl

/-- the checks of the structure are the last -/
theorem loadRun_of_structure {witness : Witness} {outputs : PublicInputBag}
    (hraw : ¬ raw.Rejected) : LoadRun path json raw (do
      (raw.vector witness outputs).validateStructure.mapError
        (Fault.map fun e => s!"{e} (in `{path}`)")
      return raw.vector witness outputs) := by
  have hfails : Fails (fun fault => ∀ msg, fault = .error msg → Unnamed raw.id msg)
      (raw.vector witness outputs).validateStructure :=
    (raw.vector witness outputs).validateStructure_fails
  cases hvalid : (raw.vector witness outputs).validateStructure with
  | ok _ => exact .loaded hraw _
  | error fault =>
    refine .failed hraw fun msg hmsg => ?_
    cases fault with
    | panic => cases hmsg
    | error e =>
      have hunnamed : Unnamed raw.id e := hfails _ hvalid e rfl
      obtain rfl := Fault.error.inj hmsg
      exact hunnamed.located

/-- how loading ends -/
theorem loadRun (hjson : text.parse bytes = .ok json)
    (hraw : (fromJson json : Except String RawVector) = .ok raw) :
    LoadRun path json raw (TestVector.load text path (.ok bytes)) := by
  have hpublic : BagRun _ _ (raw.witness.pub.intoBag raw.publicContext) := bagRun _ _
  have houtputs : BagRun _ _ (raw.expectedOutputs.intoBag raw.outputContext) := bagRun _ _
  rw [load_eq hjson hraw]
  rcases foldlM_insertPrivate raw.context raw.witness.priv.entries .empty with
    ⟨hread, priv, hpriv⟩ | ⟨e, he, hvalue, err, hpriv⟩
  · rw [intoWitness_eq hpriv, ← RawVector.publicContext]
    have hnone : ¬ ∃ e ∈ raw.witness.priv.entries, ¬ IsFieldText e.2.toList := by
      rintro ⟨e, he, hvalue⟩
      exact hvalue (hread e he)
    generalize raw.witness.pub.intoBag _ = pub at hpublic ⊢
    cases hpublic with
    | rejected hstops he hvalue err =>
      exact .rejected (Or.inr (Or.inl hstops)) (RawVector.publicPlace he) hvalue ⟨err, rfl⟩
    | misnamed hstops hnames herr =>
      refine .failed ?_ fun msg hmsg => ?_
      · rintro (h | h | ⟨h, _⟩)
        · exact hnone h
        · exact hstops h
        · exact hnames h
      · obtain rfl := Fault.error.inj hmsg
        exact (unnamed_public herr).located
    | inserted hstops hnames pub =>
      have hgoes (h : raw.Rejected) : StopsAtValue raw.expectedOutputs.entries := by
        rcases h with h | h | ⟨_, h⟩
        · exact absurd h hnone
        · exact absurd h hstops
        · exact h
      generalize raw.expectedOutputs.intoBag _ = outputs at houtputs ⊢
      cases houtputs with
      | rejected hstops' he hvalue err =>
        exact .rejected (Or.inr (Or.inr ⟨hnames, hstops'⟩)) (RawVector.outputPlace he) hvalue
          ⟨err, rfl⟩
      | misnamed hstops' hnames' herr =>
        refine .failed (fun h => hstops' (hgoes h)) fun msg hmsg => ?_
        obtain rfl := Fault.error.inj hmsg
        exact (unnamed_output herr).located
      | inserted hstops' hnames' outputs =>
        exact loadRun_of_structure fun h => hstops' (hgoes h)
  · unfold RawWitness.intoWitness
    rw [hpriv]
    have hwritten : e ∈ writtenSecrets json := mem_writtenSecrets hraw he
    exact .rejected (Or.inl ⟨e, he, hvalue⟩) (RawVector.privatePlace hwritten) hvalue ⟨err, rfl⟩

end

/-! ## which files are read by their canonical texts only -/

/-- what loading does where it accepts canonical values only: a file that loads has no others, and a
file that has is refused for one of them -/
structure CanonicalOnly (path : String) (json : Json) (raw : RawVector)
    (run : Except (Fault String) TestVector) : Prop where
  accepted : ∀ v, run = .ok v → ∀ p ∈ raw.places json, p.IsCanonical
  refused : (∃ p ∈ raw.places json, ¬ p.IsCanonical) → ∃ fault, run = .error fault ∧
    ∃ p ∈ raw.places json, ¬ p.IsCanonical ∧ p.Named path fault

/-- **Loading accepts canonical values only** where all values of the file are, or where one that
`FieldValue::from_hex` does not read comes before every name that is not inserted. -/
theorem canonical_only_iff {text : JsonText} {path : String} {bytes : List UInt8} {json : Json}
    {raw : RawVector} (hjson : text.parse bytes = .ok json)
    (hraw : (fromJson json : Except String RawVector) = .ok raw) :
    CanonicalOnly path json raw (TestVector.load text path (.ok bytes)) ↔
      (∀ p ∈ raw.places json, p.IsCanonical) ∨ raw.Rejected := by
  have hrun : LoadRun path json raw (TestVector.load text path (.ok bytes)) := loadRun hjson hraw
  generalize TestVector.load text path (.ok bytes) = run at hrun ⊢
  by_cases hall : ∀ p ∈ raw.places json, p.IsCanonical
  · refine iff_of_true ⟨fun _ _ => hall, ?_⟩ (Or.inl hall)
    rintro ⟨p, hp, hno⟩
    exact absurd (hall p hp) hno
  have hsome : ∃ p ∈ raw.places json, ¬ p.IsCanonical := by
    by_contra hnone
    exact hall fun p hp => not_not.mp fun hno => hnone ⟨p, hp, hno⟩
  cases hrun with
  | rejected hrejected hp hvalue hnamed =>
    refine iff_of_true ⟨fun _ h => ?_, fun _ => ?_⟩ (Or.inr hrejected)
    · cases h
    · exact ⟨_, rfl, _, hp, fun h => hvalue (isFieldText_of_canonical h), hnamed⟩
  | failed hrejected hfault =>
    refine iff_of_false (fun h => ?_) (not_or.mpr ⟨hall, hrejected⟩)
    obtain ⟨_, heq, p, hp, _, err, herr⟩ := h.refused hsome
    obtain rfl := Except.error.inj heq
    exact (hfault _ herr).not_named hp ⟨err, rfl⟩
  | loaded hrejected v =>
    refine iff_of_false (fun h => ?_) (not_or.mpr ⟨hall, hrejected⟩)
    exact hall (h.accepted v rfl)

theorem canonical_only_iff_register :
    let raw := registerVector "account_sk"
    let text := JsonText.knowing (toJson raw)
    CanonicalOnly "register.json" (toJson raw) raw
        (TestVector.load text "register.json" (.ok (text.write (toJson raw)))) ↔
      (∀ p ∈ raw.places (toJson raw), p.IsCanonical) ∨ raw.Rejected :=
  canonical_only_iff JsonText.knowing_parse (fromJson_toJson _)

/-- the public value of the vector, with a prefix, zeros and capitals -/
def paddedVector : RawVector :=
  { registerVector "account_sk" with
    witness := { (registerVector "account_sk").witness with
      pub := ⟨[("account_address", "0x00ABC")]⟩ } }

/-- it loads as if it were canonical -/
theorem padded_value_loads :
    let text := JsonText.knowing (toJson paddedVector)
    TestVector.load text "register.json" (.ok (text.write (toJson paddedVector)))
        = .ok (loadedRegister "account_sk") ∧
      ∃ p ∈ paddedVector.places (toJson paddedVector), ¬ p.IsCanonical := by
  have hplace := @RawVector.publicPlace (toJson paddedVector) paddedVector
    ("account_address", "0x00ABC") List.mem_cons_self
  refine ⟨by decide +kernel, _, hplace, ?_⟩
  show ¬ Canonical maxHexLen "0x00ABC".toList
  decide

end Crucible
