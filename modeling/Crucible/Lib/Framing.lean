import Mathlib.Data.List.Basic

/-!
# Codes that say where they end

A value whose code can be cut off whatever comes behind it can be followed by others.

* `SelfDelimiting P code`   the code of a value with `P` says which value it is, and where it ends;
* `of_read`                 a reader takes the code off;
* `terminated`              a text that ends at a mark which is not in it;
* `mono`, `pair`, `comap`, `after`, `upTo`, `option`   codes made of codes;
* `flatMap_inj`, `list`, `sequence`   lists of values: on their own, up to a mark that no code
                            begins with, and with separators.
-/

namespace Framing
variable {α β γ : Type}

def SelfDelimiting (P : α → Prop) (code : α → List γ) : Prop :=
  ∀ a b, P a → P b → ∀ rest rest', code a ++ rest = code b ++ rest' → a = b ∧ rest = rest'

/-- a mark that is not the first of a code -/
def NotFirst (P : α → Prop) (code : α → List γ) (mark : γ) : Prop :=
  ∀ a, P a → ∃ first tail, code a = first :: tail ∧ first ≠ mark

theorem SelfDelimiting.of_read {P : α → Prop} {code : α → List γ}
    (read : List γ → Option (α × List γ))
    (h : ∀ a, P a → ∀ rest, read (code a ++ rest) = some (a, rest)) : SelfDelimiting P code := by
  intro a b ha hb rest rest' heq
  have hread := h a ha rest
  rw [heq, h b hb rest'] at hread
  obtain ⟨rfl, rfl⟩ := Prod.mk.inj (Option.some.inj hread)
  exact ⟨rfl, rfl⟩

theorem SelfDelimiting.terminated (mark : γ) :
    SelfDelimiting (fun part : List γ => mark ∉ part) fun part => part ++ [mark] := by
  intro a b ha hb rest rest' heq
  rw [List.append_assoc, List.append_assoc, List.singleton_append, List.singleton_append,
    List.append_eq_append_iff] at heq
  rcases heq with ⟨c, rfl, hc⟩ | ⟨c, rfl, hc⟩
  · cases c with
    | nil => exact ⟨(List.append_nil a).symm, (List.cons.inj hc).2⟩
    | cons d c =>
      obtain ⟨rfl, _⟩ := List.cons.inj hc
      exact absurd (List.mem_append_right _ List.mem_cons_self) hb
  · cases c with
    | nil => exact ⟨List.append_nil b, (List.cons.inj hc).2.symm⟩
    | cons d c =>
      obtain ⟨rfl, _⟩ := List.cons.inj hc
      exact absurd (List.mem_append_right _ List.mem_cons_self) ha

namespace SelfDelimiting
variable {P : α → Prop} {Q : β → Prop} {code : α → List γ} {code' : β → List γ}

theorem pair (h : SelfDelimiting P code) (h' : SelfDelimiting Q code') :
    SelfDelimiting (fun x : α × β => P x.1 ∧ Q x.2) fun x => code x.1 ++ code' x.2 := by
  intro a b ha hb rest rest' heq
  rw [List.append_assoc, List.append_assoc] at heq
  obtain ⟨hfst, heq⟩ := h a.1 b.1 ha.1 hb.1 _ _ heq
  obtain ⟨hsnd, hrest⟩ := h' a.2 b.2 ha.2 hb.2 _ _ heq
  exact ⟨Prod.ext hfst hsnd, hrest⟩

theorem mono (h : SelfDelimiting P code) {P' : α → Prop} (hP : ∀ a, P' a → P a) :
    SelfDelimiting P' code :=
  fun a b ha hb => h a b (hP a ha) (hP b hb)

theorem comap (h : SelfDelimiting P code) {f : β → α} (hf : Function.Injective f) :
    SelfDelimiting (fun b => P (f b)) fun b => code (f b) := by
  intro a b ha hb rest rest' heq
  obtain ⟨hab, hrest⟩ := h (f a) (f b) ha hb rest rest' heq
  exact ⟨hf hab, hrest⟩

/-- the same text before every code -/
theorem after (h : SelfDelimiting P code) (lead : List γ) :
    SelfDelimiting P fun a => lead ++ code a := by
  intro a b ha hb rest rest' heq
  rw [List.append_assoc, List.append_assoc] at heq
  exact h a b ha hb rest rest' (List.append_cancel_left heq)

/-- the same text behind every code -/
theorem upTo (h : SelfDelimiting P code) (tail : List γ) :
    SelfDelimiting P fun a => code a ++ tail := by
  intro a b ha hb rest rest' heq
  rw [List.append_assoc, List.append_assoc] at heq
  obtain ⟨hab, htail⟩ := h a b ha hb _ _ heq
  exact ⟨hab, List.append_cancel_left htail⟩

/-- a mark for nothing, and another before a value -/
theorem option (h : SelfDelimiting P code) {mark first : γ} (hne : first ≠ mark) :
    SelfDelimiting (fun a : Option α => ∀ x ∈ a, P x)
      fun a => a.elim [mark] fun x => [first] ++ code x := by
  intro a b ha hb rest rest' heq
  cases a with
  | none =>
    cases b with
    | none => exact ⟨rfl, (List.cons.inj heq).2⟩
    | some b => exact absurd (List.cons.inj heq).1.symm hne
  | some a =>
    cases b with
    | none => exact absurd (List.cons.inj heq).1 hne
    | some b =>
      obtain ⟨rfl, hrest⟩ := h a b (ha a rfl) (hb b rfl) _ _ (List.cons.inj heq).2
      exact ⟨rfl, hrest⟩

theorem inj (h : SelfDelimiting P code) {a b : α} (ha : P a) (hb : P b)
    (heq : code a = code b) : a = b :=
  (h a b ha hb [] [] (congrArg (· ++ []) heq)).1

/-- values behind each other -/
theorem flatMap_inj (h : SelfDelimiting P code) (hne : ∀ a, P a → code a ≠ []) {as bs : List α}
    (has : ∀ a ∈ as, P a) (hbs : ∀ b ∈ bs, P b) (heq : as.flatMap code = bs.flatMap code) :
    as = bs := by
  induction as generalizing bs with
  | nil =>
    cases bs with
    | nil => rfl
    | cons b bs =>
      rw [List.flatMap_nil, List.flatMap_cons, eq_comm, List.append_eq_nil_iff] at heq
      exact absurd heq.1 (hne b (hbs b List.mem_cons_self))
  | cons a as ih =>
    cases bs with
    | nil =>
      rw [List.flatMap_nil, List.flatMap_cons, List.append_eq_nil_iff] at heq
      exact absurd heq.1 (hne a (has a List.mem_cons_self))
    | cons b bs =>
      obtain ⟨ha, has'⟩ := List.forall_mem_cons.mp has
      obtain ⟨hb, hbs'⟩ := List.forall_mem_cons.mp hbs
      rw [List.flatMap_cons, List.flatMap_cons] at heq
      obtain ⟨rfl, hrest⟩ := h a b ha hb _ _ heq
      exact congrArg (a :: ·) (ih has' hbs' hrest)

/-- values behind each other, up to a mark -/
theorem list (h : SelfDelimiting P code) {mark : γ} (hmark : NotFirst P code mark) :
    SelfDelimiting (fun as : List α => ∀ a ∈ as, P a)
      fun as => as.flatMap code ++ [mark] := by
  intro as
  induction as with
  | nil =>
    intro bs _ hbs rest rest' heq
    dsimp only at heq
    cases bs with
    | nil => exact ⟨rfl, List.append_cancel_left heq⟩
    | cons b bs =>
      obtain ⟨first, tail, hcode, hne⟩ := hmark b (hbs b List.mem_cons_self)
      rw [List.flatMap_cons, hcode] at heq
      exact absurd (List.cons.inj heq).1.symm hne
  | cons a as ih =>
    intro bs has hbs rest rest' heq
    dsimp only at heq
    obtain ⟨ha, has⟩ := List.forall_mem_cons.mp has
    cases bs with
    | nil =>
      obtain ⟨first, tail, hcode, hne⟩ := hmark a ha
      rw [List.flatMap_cons, hcode] at heq
      exact absurd (List.cons.inj heq).1 hne
    | cons b bs =>
      obtain ⟨hb, hbs'⟩ := List.forall_mem_cons.mp hbs
      rw [List.flatMap_cons, List.flatMap_cons, List.append_assoc, List.append_assoc,
        List.append_assoc, List.append_assoc, ← List.append_assoc (as.flatMap code),
        ← List.append_assoc (bs.flatMap code)] at heq
      obtain ⟨rfl, htail⟩ := h a b ha hb _ _ heq
      obtain ⟨rfl, hrest⟩ := ih bs has hbs' _ _ htail
      exact ⟨rfl, hrest⟩

theorem intercalate_cons (sep : γ) (part : List γ) (parts : List (List γ)) :
    [sep].intercalate (part :: parts) = part ++ parts.flatMap fun part => sep :: part := by
  induction parts generalizing part with
  | nil => rw [List.intercalate_singleton, List.flatMap_nil, List.append_nil]
  | cons next parts ih =>
    rw [List.intercalate_cons_cons, ih, List.flatMap_cons, List.append_assoc]
    rfl

/-- values with separators between them, up to a mark -/
theorem sequence (h : SelfDelimiting P code) {sep mark : γ} (hsep : sep ≠ mark)
    (hmark : NotFirst P code mark) : SelfDelimiting (fun as : List α => ∀ a ∈ as, P a)
      fun as => [sep].intercalate (as.map code) ++ [mark] := by
  have htail : SelfDelimiting (fun as : List α => ∀ a ∈ as, P a)
      fun as => as.flatMap (fun a => [sep] ++ code a) ++ [mark] :=
    list (h.after [sep]) fun a _ => ⟨sep, code a, rfl, hsep⟩
  have hcode (a : α) (as : List α) : [sep].intercalate ((a :: as).map code) ++ [mark]
      = code a ++ (as.flatMap (fun a => [sep] ++ code a) ++ [mark]) := by
    rw [List.map_cons, intercalate_cons, List.flatMap_map, List.append_assoc]
    rfl
  intro as bs has hbs rest rest' heq
  dsimp only at heq
  cases as with
  | nil =>
    cases bs with
    | nil => exact ⟨rfl, List.append_cancel_left heq⟩
    | cons b bs =>
      obtain ⟨first, tail, hfirst, hne⟩ := hmark b (hbs b List.mem_cons_self)
      rw [hcode, hfirst] at heq
      exact absurd (List.cons.inj heq).1.symm hne
  | cons a as =>
    obtain ⟨ha, has⟩ := List.forall_mem_cons.mp has
    cases bs with
    | nil =>
      obtain ⟨first, tail, hfirst, hne⟩ := hmark a ha
      rw [hcode, hfirst] at heq
      exact absurd (List.cons.inj heq).1 hne
    | cons b bs =>
      obtain ⟨hb, hbs'⟩ := List.forall_mem_cons.mp hbs
      rw [hcode, hcode, List.append_assoc (code a), List.append_assoc (code b)] at heq
      obtain ⟨rfl, hbehind⟩ := h a b ha hb _ _ heq
      obtain ⟨rfl, hrest⟩ := htail as bs has hbs' _ _ hbehind
      exact ⟨rfl, hrest⟩

end SelfDelimiting

end Framing
