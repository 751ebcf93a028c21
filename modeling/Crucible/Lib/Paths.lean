import Mathlib.Data.List.Basic

/-!
# Paths, as a Unix kernel resolves them without links

A path is the list of its segments, and a location is the list of the names from `/` down.  Empty
segments and `.` stay, `..` goes up, and every other segment goes down; at `/`, up is `/`.

* `walk`, `resolve`     where the segments of a path lead;
* `walk_of_plain`       segments that only go down add themselves to the location;
* `Below`               strictly below a location (`below_append`, `below_dropLast_append`).
-/

namespace Paths

/-- one segment -/
def step (location : List String) (segment : String) : List String :=
  if segment = "" ∨ segment = "." then location
  else if segment = ".." then location.dropLast
  else location ++ [segment]

def walk (location path : List String) : List String := path.foldl step location

/-- the location of a path; the segments of an absolute one begin with the empty one -/
def resolve (cwd path : List String) : List String :=
  if path.head? = some "" then walk [] path else walk cwd path

/-- a segment that goes down -/
def Plain (segment : String) : Prop := segment ≠ "" ∧ segment ≠ "." ∧ segment ≠ ".."

/-- strictly below -/
def Below (root location : List String) : Prop := root <+: location ∧ root ≠ location

instance (segment : String) : Decidable (Plain segment) := inferInstanceAs (Decidable (_ ∧ _ ∧ _))

instance (root location : List String) : Decidable (Below root location) :=
  inferInstanceAs (Decidable (_ ∧ _))

section
variable {location path : List String} {segment : String}

theorem step_of_plain (h : Plain segment) : step location segment = location ++ [segment] := by
  obtain ⟨hempty, hdot, hup⟩ := h
  have hstay : ¬ (segment = "" ∨ segment = ".") := fun h => h.elim hempty hdot
  rw [step, if_neg hstay, if_neg hup]

/-- a segment that does not go up goes on from any location alike -/
theorem step_of_ne_up (h : segment ≠ "..") : step location segment = location ++ step [] segment := by
  by_cases hstay : segment = "" ∨ segment = "."
  · rw [step, if_pos hstay, step, if_pos hstay, List.append_nil]
  · have hplain : Plain segment := ⟨fun h => hstay (.inl h), fun h => hstay (.inr h), h⟩
    rw [step_of_plain hplain, step_of_plain hplain, List.nil_append]

theorem walk_cons : walk location (segment :: path) = walk (step location segment) path := rfl

theorem walk_append {rest : List String} :
    walk location (path ++ rest) = walk (walk location path) rest :=
  List.foldl_append

/-- a path that only goes down -/
theorem walk_of_plain (h : ∀ segment ∈ path, Plain segment) :
    walk location path = location ++ path := by
  induction path generalizing location with
  | nil =>
    show location = location ++ []
    rw [List.append_nil]
  | cons segment path ih =>
    have hfirst : Plain segment := h segment List.mem_cons_self
    have hrest : ∀ s ∈ path, Plain s := fun s hs => h s (List.mem_cons_of_mem _ hs)
    rw [walk_cons, step_of_plain hfirst, ih hrest, List.append_assoc, List.singleton_append]

/-- a relative path goes on from where the path before it leads -/
theorem resolve_append {cwd : List String} (h : path.head? ≠ some "") :
    resolve cwd (location ++ path) = walk (resolve cwd location) path := by
  unfold resolve
  cases location with
  | nil =>
    rw [List.nil_append, if_neg h]
    rfl
  | cons first rest =>
    rw [List.cons_append, List.head?_cons, List.head?_cons]
    split
    · rw [← List.cons_append, walk_append]
    · rw [← List.cons_append, walk_append]

theorem below_append {root rest : List String} (h : rest ≠ []) : Below root (root ++ rest) := by
  refine ⟨List.prefix_append root rest, fun heq => h ?_⟩
  rwa [List.self_eq_append_right] at heq

/-- what is below goes on from the root with at least one name -/
theorem below_iff {root : List String} :
    Below root location ↔ ∃ rest, rest ≠ [] ∧ location = root ++ rest := by
  refine ⟨fun ⟨⟨rest, hrest⟩, hne⟩ => ⟨rest, fun hnil => hne ?_, hrest.symm⟩, fun h => ?_⟩
  · rw [← hrest, hnil, List.append_nil]
  · obtain ⟨rest, hne, rfl⟩ := h
    exact below_append hne

/-- a path that goes up first, and down at least twice, comes back below where it began only at
`/` or through the name it left -/
theorem below_dropLast_append {root rest : List String} {name : String} (h : rest ≠ []) :
    Below root (root.dropLast ++ name :: rest) ↔ root = [] ∨ root.getLast? = some name := by
  rcases List.eq_nil_or_concat root with rfl | ⟨parent, last, rfl⟩
  · refine iff_of_true ?_ (Or.inl rfl)
    exact below_append (List.cons_ne_nil name rest)
  · rw [List.concat_eq_append, List.dropLast_concat, List.getLast?_concat, below_iff]
    refine ⟨fun ⟨rest', hne, heq⟩ => Or.inr ?_, fun hlast => ?_⟩
    · rw [List.append_assoc, List.append_cancel_left_eq, List.singleton_append,
        List.cons.injEq] at heq
      exact congrArg some heq.1.symm
    · have hnil : parent ++ [last] ≠ [] := List.append_ne_nil_of_right_ne_nil _ (by simp)
      have hname : last = name := Option.some.inj (hlast.resolve_left hnil)
      refine ⟨rest, h, ?_⟩
      rw [hname, List.append_assoc, List.singleton_append]

end

end Paths
