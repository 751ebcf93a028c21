import Crucible.Lib.Framing
import Crucible.Lib.Hex
import Crucible.Lib.Json

/-!
# What the compact text of a document says

* `escapeChar_selfDelimiting`, `quote_selfDelimiting`   a string ends where its text says;
* `compact_arr_inj`     the text of a list of documents that end where their texts say;
* `compact_field_inj`   and of an object, when only one field is in question.
-/

namespace Serde
open Text Framing

/-! ## strings -/

/-- the control characters with an escape of one letter -/
def unescapeLetter (c : Char) : Char :=
  if c = 'b' then Char.ofNat 8
  else if c = 't' then Char.ofNat 9
  else if c = 'n' then Char.ofNat 10
  else if c = 'f' then Char.ofNat 12
  else if c = 'r' then Char.ofNat 13
  else c

/-- the first character of a string, and what is behind it -/
def unescape : List Char → Option (Char × List Char)
  | [] => none
  | c :: rest =>
    if c = '\\' then
      match rest with
      | 'u' :: _ :: _ :: hi :: lo :: rest =>
        some (Char.ofNat (digitValue hi * 16 + digitValue lo), rest)
      | d :: rest => some (unescapeLetter d, rest)
      | [] => none
    else some (c, rest)

theorem unescape_escapeChar (c : Char) (rest : List Char) :
    unescape (escapeChar c ++ rest) = some (c, rest) := by
  have hnamed {n : Nat} (hn : n < 0xd800) (h : c.toNat = n) : c = Char.ofNat n :=
    Char.toNat_inj.mp (h.trans (toNat_ofNat hn).symm)
  unfold escapeChar
  split
  · next h =>
    rcases h with rfl | rfl
    · rfl
    · rfl
  · next hplain =>
    split
    · next h => rw [hnamed (by omega) h]; rfl
    split
    · next h => rw [hnamed (by omega) h]; rfl
    split
    · next h => rw [hnamed (by omega) h]; rfl
    split
    · next h => rw [hnamed (by omega) h]; rfl
    split
    · next h => rw [hnamed (by omega) h]; rfl
    split
    · next hlt =>
      show some (Char.ofNat (digitValue (hexDigit (c.toNat / 16)) * 16
        + digitValue (hexDigit (c.toNat % 16))), rest) = some (c, rest)
      rw [digitValue_hexDigit (by omega), digitValue_hexDigit (by omega), Nat.div_add_mod',
        Char.ofNat_toNat]
    · exact if_neg fun h => hplain (Or.inr h)

theorem escapeChar_selfDelimiting : SelfDelimiting (fun _ => True) escapeChar :=
  .of_read unescape fun c _ rest => unescape_escapeChar c rest

theorem escapeChar_notFirst : NotFirst (fun _ => True) escapeChar '\"' := by
  intro c _
  unfold escapeChar
  split_ifs with h
  all_goals try exact ⟨'\\', _, rfl, by decide⟩
  exact ⟨c, [], rfl, fun hc => h (Or.inl hc)⟩

theorem quote_selfDelimiting : SelfDelimiting (fun _ => True) fun s => (quote s).toList := by
  have hquote : (fun s => (quote s).toList)
      = fun s : String => ['\"'] ++ (s.toList.flatMap escapeChar ++ ['\"']) :=
    funext fun s => String.toList_ofList
  rw [hquote]
  have hchars := (escapeChar_selfDelimiting.list escapeChar_notFirst).comap
    (f := String.toList) fun _ _ h => String.toList_inj.mp h
  exact (hchars.after ['\"']).mono fun _ _ _ _ => trivial

/-! ## lists and objects -/

theorem compactItems_eq (items : List Json) : compactItems items = items.map Json.compact := by
  induction items with
  | nil => rfl
  | cons j items ih => rw [compactItems, ih, List.map_cons]

theorem compactFields_eq (fields : List (String × Json)) :
    compactFields fields = fields.map compactField := by
  induction fields with
  | nil => rfl
  | cons field fields ih => rw [compactFields, ih, List.map_cons]

theorem compact_arr_toList (items : List Json) : (Json.arr items).compact.toList
    = ['['] ++ ([','].intercalate (items.map fun j => j.compact.toList) ++ [']']) := by
  rw [Json.compact, compactItems_eq, String.toList_append, String.toList_append,
    String.toList_intercalate, List.map_map, List.append_assoc]
  rfl

theorem compact_obj_toList (fields : List (String × Json)) :
    (Json.obj fields).compact.toList = ['\x7b'] ++
      ([','].intercalate (fields.map fun f => (compactField f).toList) ++ ['\x7d']) := by
  rw [Json.compact, compactFields_eq, String.toList_append, String.toList_append,
    String.toList_intercalate, List.map_map, List.append_assoc]
  rfl

theorem compactField_toList (name : String) (j : Json) :
    (compactField (name, j)).toList = (quote name).toList ++ [':'] ++ j.compact.toList := by
  rw [compactField, String.toList_append, String.toList_append]
  rfl

/-- documents that end where their texts say are read off the text of their list -/
theorem compact_arr_inj {α : Type} {P : α → Prop} {form : α → Json}
    (h : SelfDelimiting P fun a => (form a).compact.toList)
    (hfirst : NotFirst P (fun a => (form a).compact.toList) ']') {as bs : List α}
    (has : ∀ a ∈ as, P a) (hbs : ∀ b ∈ bs, P b)
    (heq : (Json.arr (as.map form)).compact = (Json.arr (bs.map form)).compact) : as = bs := by
  have hlist := congrArg String.toList heq
  rw [compact_arr_toList, compact_arr_toList, List.map_map, List.map_map] at hlist
  exact (h.sequence (by decide) hfirst).inj has hbs (List.append_cancel_left hlist)

/-- one of some parts between separators: what is before and behind it depends on the others -/
theorem intercalate_around {α : Type} (sep : List α) (before behind : List (List α)) :
    ∃ left right, ∀ part, sep.intercalate (before ++ part :: behind) = left ++ part ++ right := by
  induction before with
  | nil =>
    cases behind with
    | nil => exact ⟨[], [], fun part => by simp⟩
    | cons next behind =>
      refine ⟨[], sep ++ sep.intercalate (next :: behind), fun part => ?_⟩
      rw [List.nil_append, List.intercalate_cons_cons, List.nil_append, List.append_assoc]
  | cons first before ih =>
    obtain ⟨left, right, hpart⟩ := ih
    refine ⟨first ++ sep ++ left, right, fun part => ?_⟩
    rw [List.cons_append, List.intercalate_cons_of_ne_nil (by simp), hpart]
    simp only [List.append_assoc]

/-- a field is read off the text, when the others are given -/
theorem compact_field_inj {before behind : List (String × Json)} {name : String} {x y : Json}
    (heq : (Json.obj (before ++ (name, x) :: behind)).compact
      = (Json.obj (before ++ (name, y) :: behind)).compact) : x.compact = y.compact := by
  have hlist := congrArg String.toList heq
  rw [compact_obj_toList, compact_obj_toList, List.map_append, List.map_append, List.map_cons,
    List.map_cons] at hlist
  obtain ⟨left, right, hpart⟩ := intercalate_around [',']
    (before.map fun f => (compactField f).toList) (behind.map fun f => (compactField f).toList)
  rw [hpart, hpart, compactField_toList, compactField_toList] at hlist
  have hfield := List.append_cancel_right (List.append_cancel_left hlist)
  exact String.toList_inj.mp (List.append_cancel_left
    (List.append_cancel_left (List.append_cancel_right hfield)))

end Serde
