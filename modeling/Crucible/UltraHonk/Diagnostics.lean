import Crucible.UltraHonk.Panics

/-!
# Diagnostics (`crates/ultrahonk/src/exec.rs`, `excerpt`)

What `bb` prints is kept as one short line.

* `newline_not_mem_excerptLine`   it is one line;
* `excerpt_eq`                    and as much of it as there is up to the byte where it is cut;
* `excerpt_bounded_iff`           the texts of which a short line is kept: the line is short, or a
                                  character ends where it is cut.
-/

namespace Crucible
open Text

section
variable {stderr out : String}

/-- what is kept is of one line -/
theorem newline_not_mem_excerptLine : '\n' ∉ excerptLine stderr := by
  have hlast : '\n' ∉ ((lines stderr.toList).reverse.find? fun l => trim l ≠ []).getD
      "bb failed (no diagnostic)".toList := by
    cases hfind : (lines stderr.toList).reverse.find? fun l => trim l ≠ [] with
    | none =>
      rw [Option.getD_none]
      decide
    | some line =>
      have hmem := List.mem_reverse.mp (List.mem_of_find?_eq_some hfind)
      exact newline_not_mem_of_mem_lines hmem
  intro hmem
  exact hlast ((trimEnd_sublist.trans (before_sublist.trans trim_sublist)).subset hmem)

theorem excerpt_eq : excerpt stderr = if 200 < byteLen (excerptLine stderr) then
      (splitBytes 200 (excerptLine stderr)).map fun q => String.ofList (q.1 ++ ['…'])
    else some (String.ofList (excerptLine stderr)) := rfl

/-- at most 200 bytes of the line, and an ellipsis where the line is longer -/
structure Excerpts (stderr out : String) : Prop where
  newline : '\n' ∉ out.toList
  bounded : ∃ kept, kept <+: excerptLine stderr ∧ byteLen kept ≤ 200 ∧
    (byteLen (excerptLine stderr) ≤ 200 → kept = excerptLine stderr) ∧
    out.toList = kept ++ if 200 < byteLen (excerptLine stderr) then ['…'] else []

theorem excerpts_short (h : byteLen (excerptLine stderr) ≤ 200) :
    Excerpts stderr (String.ofList (excerptLine stderr)) := by
  refine ⟨?_, excerptLine stderr, List.prefix_refl _, h, fun _ => rfl, ?_⟩
  · rw [String.toList_ofList]
    exact newline_not_mem_excerptLine
  · rw [String.toList_ofList, if_neg (Nat.not_lt.mpr h), List.append_nil]

theorem excerpts_long {kept : List Char} (hlong : 200 < byteLen (excerptLine stderr))
    (hkept : kept <+: excerptLine stderr) (hlen : byteLen kept = 200) :
    Excerpts stderr (String.ofList (kept ++ ['…'])) := by
  refine ⟨?_, kept, hkept, Nat.le_of_eq hlen, fun h => absurd hlong (Nat.not_lt.mpr h), ?_⟩
  · rw [String.toList_ofList, List.mem_append, not_or]
    exact ⟨fun hmem => newline_not_mem_excerptLine (hkept.subset hmem), by decide⟩
  · rw [String.toList_ofList, if_pos hlong]

end

/-- **Of which texts a short line is kept**: of those whose line is short, or has a character that
ends with its 200th byte; of no other is there anything, for the cut panics. -/
theorem excerpt_bounded_iff (stderr : String) :
    (∃ out, excerpt stderr = some out ∧ Excerpts stderr out) ↔
      byteLen (excerptLine stderr) ≤ 200 ∨
        ∃ kept, kept <+: excerptLine stderr ∧ byteLen kept = 200 := by
  rw [excerpt_eq]
  by_cases hlong : 200 < byteLen (excerptLine stderr)
  · rw [if_pos hlong]
    constructor
    · intro h
      obtain ⟨out, hout, _⟩ := h
      obtain ⟨q, hq, _⟩ := Option.map_eq_some_iff.mp hout
      obtain ⟨hcut, hlen⟩ := splitBytes_eq_some_iff.mp hq
      exact Or.inr ⟨q.1, ⟨q.2, hcut.symm⟩, hlen⟩
    · intro h
      obtain ⟨kept, hkept, hlen⟩ := h.resolve_left (Nat.not_le_of_lt hlong)
      obtain ⟨rest, hrest⟩ := hkept
      have hsplit := splitBytes_eq_some_iff.mpr ⟨hrest.symm, hlen⟩
      rw [hsplit]
      exact ⟨_, rfl, excerpts_long hlong ⟨rest, hrest⟩ hlen⟩
  · rw [if_neg hlong]
    have hshort := Nat.le_of_not_lt hlong
    exact iff_of_true ⟨_, rfl, excerpts_short hshort⟩ (Or.inl hshort)

/-- 199 letters, and one of two bytes -/
def accented : String := String.ofList (List.replicate 199 'a' ++ ['é'])

theorem accented_line : excerptLine accented = List.replicate 199 'a' ++ ['é'] := by
  have htext : accented.toList = List.replicate 199 'a' ++ ['é'] := String.toList_ofList
  unfold excerptLine
  rewrite [htext]
  decide +kernel

theorem accented_panics : excerpt accented = none := by
  refine excerpt_eq_none_iff.mpr ?_
  rewrite [accented_line]
  decide +kernel

end Crucible
