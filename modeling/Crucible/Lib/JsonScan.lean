import Crucible.Lib.JsonCodes
import Crucible.Lib.Utf8

/-!
# The bytes of a JSON text that are in no string

A text is read byte by byte, from any point of it: what is cut off can be anything.

* `Mode`, `Mode.after`     where a reader is: outside of a string, in one, behind a backslash;
* `outside`                the bytes that stand outside, without the quotes;
* `Stays`, `Bare`          what a part of a text does to a reader in a string and outside of one
                           (`stays_escapeChar`, `bare_quote`);
* `bare_fields`            an object is a brace, and then what its fields say outside;
* `glued_ne`               so no text before an object makes another object of it.
-/

namespace Serde
open Utf8 Text

inductive Mode where
  | outside
  | inside
  | escaped
deriving DecidableEq

def Mode.next : Mode → UInt8 → Mode
  | .outside, b => if b = 0x22 then .inside else .outside
  | .inside, b => if b = 0x22 then .outside else if b = 0x5c then .escaped else .inside
  | .escaped, _ => .inside

/-- behind some bytes -/
def Mode.after (m : Mode) (bytes : List UInt8) : Mode := bytes.foldl Mode.next m

/-- the bytes in no string -/
def outside : Mode → List UInt8 → List UInt8
  | _, [] => []
  | m, b :: bytes =>
    if m = .outside ∧ b ≠ 0x22 then b :: outside (m.next b) bytes else outside (m.next b) bytes

/-- no control characters -/
def Visible (bytes : List UInt8) : Prop := ∀ x ∈ bytes, 32 ≤ x.toNat

instance : DecidablePred Visible := fun bytes => List.decidableBAll _ bytes

section
variable {m : Mode} {a b bytes : List UInt8}

theorem after_append : m.after (a ++ b) = (m.after a).after b := List.foldl_append

theorem outside_append : outside m (a ++ b) = outside m a ++ outside (m.after a) b := by
  induction a generalizing m with
  | nil => rfl
  | cons x a ih =>
    rw [List.cons_append, outside, outside, ih]
    show _ = _ ++ outside ((m.next x).after a) b
    split
    · rfl
    · rfl

theorem Visible.append (ha : Visible a) (hb : Visible b) : Visible (a ++ b) :=
  List.forall_mem_append.mpr ⟨ha, hb⟩

/-! ## strings -/

/-- in a string, and still in it afterwards -/
structure Stays (bytes : List UInt8) : Prop where
  after : Mode.inside.after bytes = .inside
  outside : outside .inside bytes = []
  visible : Visible bytes

instance : DecidablePred Stays := fun bytes =>
  decidable_of_iff (Mode.inside.after bytes = .inside ∧ Serde.outside .inside bytes = [] ∧
    Visible bytes) ⟨fun h => ⟨h.1, h.2.1, h.2.2⟩, fun h => ⟨h.after, h.outside, h.visible⟩⟩

theorem Stays.nil : Stays [] := ⟨rfl, rfl, fun _ h => absurd h List.not_mem_nil⟩

theorem Stays.append (ha : Stays a) (hb : Stays b) : Stays (a ++ b) where
  after := by rw [after_append, ha.after, hb.after]
  outside := by rw [outside_append, ha.after, ha.outside, hb.outside, List.append_nil]
  visible := ha.visible.append hb.visible

theorem Stays.flatMap {α : Type} {f : α → List UInt8} : ∀ {as : List α},
    (∀ x ∈ as, Stays (f x)) → Stays (as.flatMap f)
  | [], _ => .nil
  | x :: as, h => by
    obtain ⟨hx, has⟩ := List.forall_mem_cons.mp h
    rw [List.flatMap_cons]
    exact hx.append (Stays.flatMap has)

theorem stays_of_plain (hvisible : Visible bytes) (h : ∀ x ∈ bytes, x ≠ 0x22 ∧ x ≠ 0x5c) :
    Stays bytes := by
  induction bytes with
  | nil => exact .nil
  | cons x bytes ih =>
    obtain ⟨⟨hquote, hslash⟩, hrest⟩ := List.forall_mem_cons.mp h
    have hnext : Mode.inside.next x = .inside := by
      rw [Mode.next, if_neg hquote, if_neg hslash]
    have ih := ih (List.forall_mem_cons.mp hvisible).2 hrest
    refine ⟨?_, ?_, hvisible⟩
    · show (Mode.inside.next x).after bytes = .inside
      rw [hnext]
      exact ih.after
    · rw [Serde.outside, if_neg (fun h => by cases h.1), hnext]
      exact ih.outside

/-- a character that needs no escape -/
theorem stays_encode {c : Char} (hcontrol : 32 ≤ c.toNat) (h : ¬ (c = '\"' ∨ c = '\\')) :
    Stays (String.utf8EncodeChar c) := by
  refine stays_of_plain (fun x hx => ?_) fun x hx => ?_
  · have hbyte := utf8EncodeChar_ascii c x hx
    omega
  · have hchar {d : Char} (hd : d.toNat < 128) (hne : c ≠ d) : x ≠ UInt8.ofNat d.toNat := by
      rintro rfl
      have hnat : (UInt8.ofNat d.toNat).toNat = d.toNat :=
        UInt8.toNat_ofNat_of_lt' (lt_of_lt_of_le hd (by decide))
      rcases utf8EncodeChar_ascii c _ hx with heq | hle
      · exact hne (Char.toNat_inj.mp (heq.symm.trans hnat))
      · omega
    exact ⟨hchar (d := '\"') (by decide) fun hc => h (Or.inl hc),
      hchar (d := '\\') (by decide) fun hc => h (Or.inr hc)⟩

theorem stays_hexDigit {n : Nat} (hn : n < 16) : Stays (String.utf8EncodeChar (hexDigit n)) := by
  have hlower := hexDigit_isLowerHex hn
  refine stays_encode ?_ ?_
  · rw [hexDigit_toNat hn]
    split
    · omega
    · omega
  · rintro (heq | heq)
    · rw [heq] at hlower
      exact absurd hlower (by decide)
    · rw [heq] at hlower
      exact absurd hlower (by decide)

/-- a backslash and a letter -/
theorem stays_escape {e : Char} (he : e ∈ ['\"', '\\', 'b', 't', 'n', 'f', 'r']) :
    Stays (['\\', e].flatMap String.utf8EncodeChar) := by
  simp only [List.mem_cons, List.not_mem_nil, or_false] at he
  rcases he with rfl | rfl | rfl | rfl | rfl | rfl | rfl <;> decide

theorem stays_escapeChar (c : Char) : Stays ((escapeChar c).flatMap String.utf8EncodeChar) := by
  unfold escapeChar
  split
  · next h => rcases h with rfl | rfl <;> exact stays_escape (by decide)
  · next h =>
    split_ifs
    · exact stays_escape (by decide)
    · exact stays_escape (by decide)
    · exact stays_escape (by decide)
    · exact stays_escape (by decide)
    · exact stays_escape (by decide)
    · -- `\u00`, and two digits
      rw [List.flatMap_append]
      refine Stays.append (by decide) (Stays.flatMap fun d hd => ?_)
      simp only [List.mem_cons, List.not_mem_nil, or_false] at hd
      rcases hd with rfl | rfl
      · exact stays_hexDigit (by omega)
      · exact stays_hexDigit (by omega)
    · next hcontrol =>
      rw [List.flatMap_singleton]
      exact stays_encode (Nat.le_of_not_lt hcontrol) h

/-! ## outside -/

variable {P : UInt8 → Prop}

/-- from outside to outside, and only such bytes stand there -/
structure Bare (P : UInt8 → Prop) (bytes : List UInt8) : Prop where
  after : Mode.outside.after bytes = .outside
  plain : ∀ x ∈ outside .outside bytes, P x
  visible : Visible bytes

instance [DecidablePred P] : DecidablePred (Bare P) := fun bytes =>
  haveI : Decidable (∀ x ∈ outside .outside bytes, P x) := List.decidableBAll _ _
  decidable_of_iff (Mode.outside.after bytes = .outside ∧ (∀ x ∈ outside .outside bytes, P x) ∧
    Visible bytes) ⟨fun h => ⟨h.1, h.2.1, h.2.2⟩, fun h => ⟨h.after, h.plain, h.visible⟩⟩

theorem Bare.nil : Bare P [] :=
  ⟨rfl, fun _ h => absurd h List.not_mem_nil, fun _ h => absurd h List.not_mem_nil⟩

theorem Bare.append (ha : Bare P a) (hb : Bare P b) : Bare P (a ++ b) where
  after := by rw [after_append, ha.after, hb.after]
  plain := by
    rw [outside_append, ha.after]
    exact List.forall_mem_append.mpr ⟨ha.plain, hb.plain⟩
  visible := ha.visible.append hb.visible

theorem bare_of_plain (hvisible : Visible bytes) (h : ∀ x ∈ bytes, P x ∧ x ≠ 0x22) :
    Bare P bytes := by
  induction bytes with
  | nil => exact .nil
  | cons x bytes ih =>
    obtain ⟨⟨hx, hquote⟩, hrest⟩ := List.forall_mem_cons.mp h
    have hnext : Mode.outside.next x = .outside := if_neg hquote
    have ih := ih (List.forall_mem_cons.mp hvisible).2 hrest
    refine ⟨?_, ?_, hvisible⟩
    · show (Mode.outside.next x).after bytes = .outside
      rw [hnext]
      exact ih.after
    · rw [outside, if_pos ⟨rfl, hquote⟩, hnext]
      exact List.forall_mem_cons.mpr ⟨hx, ih.plain⟩

/-- a string says nothing outside -/
theorem bare_quote (s : String) : Bare P (quote s).toUTF8.data.toList := by
  have hbytes : (quote s).toUTF8.data.toList
      = 0x22 :: ((s.toList.flatMap escapeChar).flatMap String.utf8EncodeChar ++ [0x22]) := by
    rw [toUTF8_toList, quote, String.toList_ofList, List.flatMap_append, List.flatMap_cons]
    rfl
  have hstays : Stays ((s.toList.flatMap escapeChar).flatMap String.utf8EncodeChar) := by
    rw [List.flatMap_assoc]
    exact Stays.flatMap fun c _ => stays_escapeChar c
  rw [hbytes]
  refine ⟨?_, ?_, ?_⟩
  · show Mode.inside.after _ = .outside
    rw [after_append, hstays.after]
    rfl
  · show ∀ x ∈ outside .inside _, P x
    rw [outside_append, hstays.after, hstays.outside]
    exact fun _ hx => absurd hx List.not_mem_nil
  · exact List.forall_mem_cons.mpr ⟨by decide, hstays.visible.append (by decide)⟩

theorem bare_char {c : Char} (hc : 32 ≤ c.toNat ∧ c.toNat < 128) (hquote : c ≠ '\"')
    (h : P (UInt8.ofNat c.toNat)) : Bare P (String.utf8EncodeChar c) := by
  have hbytes : String.utf8EncodeChar c = [UInt8.ofNat c.toNat] := by
    unfold String.utf8EncodeChar
    exact if_pos (Nat.le_of_lt_succ hc.2)
  have hnat : (UInt8.ofNat c.toNat).toNat = c.toNat :=
    UInt8.toNat_ofNat_of_lt' (lt_of_lt_of_le hc.2 (by decide))
  rw [hbytes]
  refine bare_of_plain ?_ ?_
  · exact List.forall_mem_singleton.mpr (hnat.symm ▸ hc.1)
  · refine List.forall_mem_singleton.mpr ⟨h, fun heq => hquote (Char.toNat_inj.mp ?_)⟩
    rw [← hnat, heq]
    rfl

theorem Bare.flatMap {α : Type} {f : α → List UInt8} : ∀ {as : List α},
    (∀ x ∈ as, Bare P (f x)) → Bare P (as.flatMap f)
  | [], _ => .nil
  | x :: as, h => by
    obtain ⟨hx, has⟩ := List.forall_mem_cons.mp h
    rw [List.flatMap_cons]
    exact hx.append (Bare.flatMap has)

theorem bare_nat (n : Nat) (h : ∀ x : UInt8, 48 ≤ x.toNat → x.toNat ≤ 57 → P x) :
    Bare P (Json.int n).compact.toUTF8.data.toList := by
  have htext : (Json.int n).compact.toList = Nat.toDigits 10 n := String.toList_ofList
  rw [toUTF8_toList, htext]
  refine Bare.flatMap fun c hc => ?_
  obtain ⟨hge, hle⟩ : 48 ≤ c.toNat ∧ c.toNat ≤ 57 :=
    isAsciiDigit_iff.mp (isAsciiDigit_toDigits hc)
  have hnat : (UInt8.ofNat c.toNat).toNat = c.toNat :=
    UInt8.toNat_ofNat_of_lt' (lt_of_le_of_lt hle (by decide))
  refine bare_char ⟨by omega, by omega⟩ ?_ (h _ (by omega) (by omega))
  rintro rfl
  exact absurd hge (by decide)

theorem bare_intercalate {sep : List Char} {parts : List (List Char)}
    (hsep : Bare P (sep.flatMap String.utf8EncodeChar))
    (h : ∀ part ∈ parts, Bare P (part.flatMap String.utf8EncodeChar)) :
    Bare P ((sep.intercalate parts).flatMap String.utf8EncodeChar) := by
  induction parts with
  | nil => exact .nil
  | cons part parts ih =>
    obtain ⟨hpart, hparts⟩ := List.forall_mem_cons.mp h
    cases parts with
    | nil =>
      rw [List.intercalate_singleton]
      exact hpart
    | cons next parts =>
      rw [List.intercalate_cons_cons, List.flatMap_append, List.flatMap_append]
      exact (hpart.append hsep).append (ih hparts)

/-- an object is a brace, and then what its fields say -/
theorem bare_fields {fields : List (String × Json)} (hpunct : ∀ x ∈ [0x2c, 0x3a, 0x7d], P x)
    (h : ∀ f ∈ fields, Bare P f.2.compact.toUTF8.data.toList) :
    ∃ rest, (Json.obj fields).compact.toUTF8.data.toList = 0x7b :: rest ∧ Bare P rest := by
  have hmark {c : Char} (hc : 32 ≤ c.toNat ∧ c.toNat < 128) (hquote : c ≠ '\"')
      (hmem : UInt8.ofNat c.toNat ∈ [0x2c, 0x3a, 0x7d]) :
      Bare P ([c].flatMap String.utf8EncodeChar) := by
    rw [List.flatMap_singleton]
    exact bare_char hc hquote (hpunct _ hmem)
  have hfields : Bare P (([','].intercalate (fields.map fun f => (compactField f).toList)).flatMap
      String.utf8EncodeChar) := by
    refine bare_intercalate (hmark (by decide) (by decide) (by decide)) fun part hpart => ?_
    obtain ⟨⟨name, j⟩, hf, rfl⟩ := List.mem_map.mp hpart
    have hvalue : Bare P j.compact.toUTF8.data.toList := h _ hf
    rw [toUTF8_toList] at hvalue
    rw [compactField_toList, List.flatMap_append, List.flatMap_append, ← toUTF8_toList]
    exact ((bare_quote name).append (hmark (by decide) (by decide) (by decide))).append hvalue
  refine ⟨_, ?_, hfields.append (hmark (c := '\x7d') (by decide) (by decide) (by decide))⟩
  rw [toUTF8_toList, compact_obj_toList, List.flatMap_append, List.flatMap_append]
  rfl

/-- **A text with a brace and an object behind it is no such object**: wherever the reader is behind
the text, the second brace, or the first letter of its first name, stands outside. -/
theorem glued_ne {rest whole : List UInt8} {x : UInt8} (t : List UInt8) (hbrace : ¬ P 0x7b)
    (hx : ¬ P x) (hquote : x ≠ 0x22) (h : Bare P whole) :
    0x7b :: t ++ 0x7b :: 0x22 :: x :: rest ≠ 0x7b :: whole := by
  intro heq
  obtain rfl : t ++ 0x7b :: 0x22 :: x :: rest = whole := (List.cons.inj heq).2
  have hall := h.plain
  rw [outside_append] at hall
  have hsecond := fun y hy => hall y (List.mem_append_right _ hy)
  have hletter : outside .outside (x :: rest) = x :: outside .outside rest := by
    rw [outside, if_pos ⟨rfl, hquote⟩, Mode.next, if_neg hquote]
  cases hmode : Mode.outside.after t with
  | outside =>
    rw [hmode] at hsecond
    exact hbrace (hsecond 0x7b List.mem_cons_self)
  | inside =>
    rw [hmode] at hsecond
    have hbare : outside .inside (0x7b :: 0x22 :: x :: rest) = x :: outside .outside rest := hletter
    rw [hbare] at hsecond
    exact hx (hsecond x List.mem_cons_self)
  | escaped =>
    rw [hmode] at hsecond
    have hbare : outside .escaped (0x7b :: 0x22 :: x :: rest) = x :: outside .outside rest :=
      hletter
    rw [hbare] at hsecond
    exact hx (hsecond x List.mem_cons_self)

end

end Serde
