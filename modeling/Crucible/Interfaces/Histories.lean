import Crucible.Interfaces.Numbers
import Crucible.Lib.Framing
import Crucible.Lib.Utf8

/-!
# Public bags over their histories

A public bag in the hands of a caller is what a sequence of `insert` and `set` calls has made of the
empty bag; a call that fails leaves the bag as it was.

* `PublicInputBag.history_wellFormed`   names stay valid and distinct, over every history;
* `canonicalBytes_eq_iff`               the bytes that a bag is bound by say which bag it is: no
                                        name holds the `=` that ends it, and no value the line end.
-/

namespace Crucible
open Checked Text Framing Framing.SelfDelimiting

/-! ## histories -/

inductive BagOp where
  | insert (name : String) (value : FieldValue)
  | set (name : String) (value : FieldValue)
deriving DecidableEq

def BagOp.call (b : PublicInputBag) : BagOp → Except FieldError PublicInputBag
  | .insert name value => b.insert name value
  | .set name value => b.set name value

/-- the bag after a call, failed or not -/
def PublicInputBag.after (b : PublicInputBag) (op : BagOp) : PublicInputBag :=
  match op.call b with
  | .ok b' => b'
  | .error _ => b

/-- the bag that a sequence of calls makes of the empty one -/
def PublicInputBag.history (ops : List BagOp) : PublicInputBag := ops.foldl after Bag.new

section
variable {b : PublicInputBag} {ops : List BagOp}

theorem BagOp.call_wellFormed {op : BagOp} {b' : PublicInputBag} (hb : b.WellFormed)
    (h : op.call b = .ok b') : b'.WellFormed := by
  cases op with
  | insert name value => exact Bag.insert_wellFormed hb h
  | set name value => exact Bag.set_wellFormed hb h

theorem PublicInputBag.after_wellFormed (hb : b.WellFormed) (op : BagOp) :
    (after b op).WellFormed := by
  unfold after
  split
  · next h => exact BagOp.call_wellFormed hb h
  · exact hb

theorem PublicInputBag.foldl_wellFormed (hb : b.WellFormed) :
    (ops.foldl after b).WellFormed := by
  induction ops generalizing b with
  | nil => exact hb
  | cons op ops ih => exact ih (after_wellFormed hb op)

/-- names stay valid and distinct -/
theorem PublicInputBag.history_wellFormed (ops : List BagOp) : (history ops).WellFormed :=
  foldl_wellFormed Bag.new_wellFormed

end

/-! ## the bytes a bag is bound by -/

/-- the line of an entry -/
def entryLine (e : String × FieldValue) : List Char := e.1.toList ++ '=' :: (e.2.hex.toList ++ ['\n'])

/-- the bytes are those of a text, an entry a line -/
theorem canonicalBytes_eq (b : Bag FieldValue) :
    b.canonicalBytes = (String.ofList (b.entries.flatMap entryLine)).toUTF8.data.toList := by
  rw [Utf8.toUTF8_toList, String.toList_ofList, List.flatMap_assoc]
  unfold Bag.canonicalBytes
  apply List.flatMap_congr
  intro e _
  rw [Utf8.toUTF8_toList]
  congr 1
  simp [entryLine, String.toList_append]

theorem name_no_equals {name : String} (h : validateName name = .ok ()) : '=' ∉ name.toList := by
  intro hmem
  have hchars := (validateName_ok.mp h).2.2
  exact absurd (List.all_eq_true.mp hchars '=' hmem) (by decide)

theorem hex_no_newline (v : FieldValue) : '\n' ∉ v.hex.toList := by
  intro hmem
  exact absurd (List.all_eq_true.mp v.isHexDigit_hex '\n' hmem) (by decide)

/-- a line ends the name, and then the digits, where they end -/
theorem entryLine_selfDelimiting :
    SelfDelimiting (fun e : String × FieldValue => validateName e.1 = .ok ()) entryLine := by
  have hparts : Function.Injective fun e : String × FieldValue => (e.1.toList, e.2.hex.toList) := by
    intro e e' h
    obtain ⟨hname, hhex⟩ := Prod.mk.inj h
    exact Prod.ext (String.toList_inj.mp hname) (FieldValue.eq_of_hex (String.toList_inj.mp hhex))
  have hline : entryLine = fun e => e.1.toList ++ ['='] ++ (e.2.hex.toList ++ ['\n']) :=
    funext fun e => (List.append_assoc e.1.toList ['='] _).symm
  rw [hline]
  exact (((terminated '=').pair (terminated '\n')).comap hparts).mono
    fun e he => ⟨name_no_equals he, hex_no_newline e.2⟩

theorem entryLine_ne_nil (e : String × FieldValue) : entryLine e ≠ [] := by
  unfold entryLine
  exact List.append_ne_nil_of_right_ne_nil _ (List.cons_ne_nil _ _)

/-- entries under valid names are read off their lines -/
theorem entries_eq_of_lines {es es' : List (String × FieldValue)}
    (hes : ∀ e ∈ es, validateName e.1 = .ok ()) (hes' : ∀ e ∈ es', validateName e.1 = .ok ())
    (h : es.flatMap entryLine = es'.flatMap entryLine) : es = es' :=
  entryLine_selfDelimiting.flatMap_inj (fun e _ => entryLine_ne_nil e) hes hes' h

theorem Bag.WellFormed.entries_valid {b : Bag FieldValue} (h : b.WellFormed) :
    ∀ e ∈ b.entries, validateName e.1 = .ok () :=
  fun e he => h.valid e.1 (List.mem_map.mpr ⟨e, he, rfl⟩)

theorem Bag.WellFormed.eq_of_canonicalBytes {b b' : Bag FieldValue} (hb : b.WellFormed)
    (hb' : b'.WellFormed) (h : b.canonicalBytes = b'.canonicalBytes) : b = b' := by
  rw [canonicalBytes_eq, canonicalBytes_eq] at h
  have hlines := String.ofList_injective (Utf8.toUTF8_injective h)
  have hentries := entries_eq_of_lines hb.entries_valid hb'.entries_valid hlines
  cases b
  cases b'
  exact congrArg Bag.mk hentries

/-- **The bytes of a public bag say which bag it is**, whatever histories two bags have. -/
theorem canonicalBytes_eq_iff (ops ops' : List BagOp) :
    (PublicInputBag.history ops).canonicalBytes = (PublicInputBag.history ops').canonicalBytes ↔
      PublicInputBag.history ops = PublicInputBag.history ops' := by
  constructor
  · intro h
    exact (PublicInputBag.history_wellFormed ops).eq_of_canonicalBytes
      (PublicInputBag.history_wellFormed ops') h
  · intro h
    rw [h]

end Crucible
