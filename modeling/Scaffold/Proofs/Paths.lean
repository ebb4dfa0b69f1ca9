import Scaffold.Files.Tree

/-!
Names of single entries, as paths and below a directory.
-/
namespace Scaffold

namespace Text

variable {sep : Char}

theorem fields_ne_nil (cs : List Char) : fields sep cs ≠ [] := by
  cases cs with
  | nil => simp [fields]
  | cons c cs =>
    rw [fields]
    split
    · simp
    · split <;> simp

theorem fields_of_not_mem {cs : List Char} (h : sep ∉ cs) : fields sep cs = [cs] := by
  induction cs with
  | nil => rfl
  | cons c cs ih =>
    obtain ⟨hc, hcs⟩ := not_or.1 (mt List.mem_cons.2 h)
    rw [fields, if_neg (Ne.symm hc), ih hcs]

theorem not_mem_of_mem_fields {cs f : List Char} (h : f ∈ fields sep cs) : sep ∉ f := by
  induction cs generalizing f with
  | nil =>
    rw [List.mem_singleton.1 h]
    simp
  | cons c cs ih =>
    rw [fields] at h
    split at h
    · rcases List.mem_cons.1 h with rfl | h
      · simp
      · exact ih h
    · next hc =>
      rcases hfields : fields sep cs with _ | ⟨g, gs⟩
      · exact absurd hfields (fields_ne_nil cs)
      · rw [hfields] at h ih
        rcases List.mem_cons.1 h with rfl | h
        · have hg := ih List.mem_cons_self
          simp [Ne.symm hc, hg]
        · exact ih (List.mem_cons_of_mem g h)

/-- A separator between two texts divides their fields. -/
theorem fields_append (xs ys : List Char) :
    fields sep (xs ++ sep :: ys) = fields sep xs ++ fields sep ys := by
  induction xs with
  | nil => simp [fields]
  | cons c xs ih =>
    rw [List.cons_append, fields, fields, ih]
    split
    · rfl
    · rcases hx : fields sep xs with _ | ⟨f, fs⟩
      · exact absurd hx (fields_ne_nil xs)
      · rfl

theorem intercalate_fields (cs : List Char) : [sep].intercalate (fields sep cs) = cs := by
  induction cs with
  | nil => rfl
  | cons c cs ih =>
    rcases hfields : fields sep cs with _ | ⟨f, fs⟩
    · exact absurd hfields (fields_ne_nil cs)
    rw [hfields] at ih
    rw [fields]
    split
    · next hc =>
      rw [hfields, List.intercalate_cons_cons, ih, hc, List.nil_append, List.singleton_append]
    · rw [hfields, ← ih]
      -- the first field ends at the first separator, if there is one
      cases fs with
      | nil => rw [List.intercalate_singleton, List.intercalate_singleton]
      | cons g fs =>
        rw [List.intercalate_cons_cons, List.intercalate_cons_cons]
        rfl

theorem fields_intercalate {fs : List (List Char)} (hne : fs ≠ []) (h : ∀ f ∈ fs, sep ∉ f) :
    fields sep ([sep].intercalate fs) = fs := by
  induction fs with
  | nil => exact absurd rfl hne
  | cons f fs ih =>
    obtain ⟨hf, hfs⟩ := List.forall_mem_cons.1 h
    cases fs with
    | nil => rw [List.intercalate_singleton, fields_of_not_mem hf]
    | cons g fs =>
      have hrest := ih (List.cons_ne_nil g fs) hfs
      rw [List.intercalate_cons_cons, List.append_assoc, List.singleton_append, fields_append,
        fields_of_not_mem hf, hrest, List.singleton_append]

/-- The fields of a text are the texts without separators that it is joined from. -/
theorem fields_eq_iff {cs : List Char} {fs : List (List Char)} :
    fields sep cs = fs ↔ fs ≠ [] ∧ (∀ f ∈ fs, sep ∉ f) ∧ [sep].intercalate fs = cs := by
  constructor
  · rintro rfl
    exact ⟨fields_ne_nil cs, fun f hf => not_mem_of_mem_fields hf, intercalate_fields cs⟩
  · rintro ⟨hne, h, rfl⟩
    exact fields_intercalate hne h

end Text

namespace Path

instance : Std.LawfulEqOrd Component where
  eq_of_compare {a b} h := by
    have h : (compareOn Component.rank a b).then (compareOn Component.name a b) = .eq := h
    obtain ⟨hr, hn⟩ := Ordering.then_eq_eq.1 h
    have hr : a.rank = b.rank := Std.LawfulEqOrd.eq_of_compare hr
    have hn : a.name = b.name := Std.LawfulEqOrd.eq_of_compare hn
    cases a <;> cases b <;> cases hr
    case normal.normal => exact congrArg Component.normal hn
    all_goals rfl

instance : Std.TransCmp order := inferInstanceAs (Std.TransCmp (compareOn components))

theorem order_eq_iff {p q : String} : order p q = .eq ↔ components p = components q :=
  Std.LawfulEqOrd.compare_eq_iff_eq

/-- The name of a single entry of a directory. -/
structure Plain (name : String) : Prop where
  noSlash : '/' ∉ name.toList
  nonempty : name ≠ ""
  notCurrent : name ≠ "."
  notParent : name ≠ ".."

variable {name : String}

theorem Plain.not_absolute (h : Plain name) : isAbsolute name = false :=
  decide_eq_false fun hs => h.noSlash (List.mem_of_mem_head? hs)

theorem Plain.components_eq (h : Plain name) : components name = [.normal name] := by
  have habs := h.not_absolute
  have hne : name.toList ≠ [] := by simpa using h.nonempty
  have hcur : name.toList ≠ ['.'] := fun hs => h.notCurrent (String.toList_inj.1 hs)
  have hpar : name.toList ≠ ['.', '.'] := fun hs => h.notParent (String.toList_inj.1 hs)
  simp [components, laterComponents, habs, Text.fields_of_not_mem h.noSlash, hne, hcur, hpar]

theorem Plain.order_eq_iff {other : String} (h : Plain name) (h' : Plain other) :
    order name other = .eq ↔ name = other := by
  rw [Path.order_eq_iff, h.components_eq, h'.components_eq]
  simp

end Path

namespace FileTree

variable {dir name : String}

theorem names_of_plain (h : Path.Plain name) : names name = [name] := by
  have hne : name.toList ≠ [] := by simpa using h.nonempty
  simp [names, Text.fields_of_not_mem h.noSlash, hne]

/-- A slash between two paths divides their names. -/
theorem names_append_slash (path path' : String) :
    names (path ++ "/" ++ path') = names path ++ names path' := by
  have hf : Text.fields '/' (path ++ "/" ++ path').toList =
      Text.fields '/' path.toList ++ Text.fields '/' path'.toList := by
    rw [← Text.fields_append]
    simp
  rw [names, hf, List.filter_append, List.map_append, ← names, ← names]

theorem names_empty : names "" = [] := rfl

theorem names_append (h : Path.Plain name) : names (dir ++ "/" ++ name) = names dir ++ [name] := by
  rw [names_append_slash, names_of_plain h]

theorem names_slash : names (dir ++ "/") = names dir := by
  have hslash := names_append_slash dir ""
  rwa [String.append_empty, names_empty, List.append_nil] at hslash

theorem names_join (h : Path.Plain name) : names (Path.join dir name) = names dir ++ [name] := by
  rw [Path.join, h.not_absolute, Bool.false_or]
  split
  · next he =>
    have hd : dir = "" := by simpa using he
    rw [names_of_plain h, hd]
    rfl
  · split
    · next hs =>
      obtain ⟨d, hd⟩ := List.getLast?_eq_some_iff.1 hs
      have hdir : dir = String.ofList d ++ "/" := by
        apply String.toList_inj.1
        simp [hd]
      rw [hdir, names_append h, names_slash]
    · exact names_append h

theorem getLast?_append_plain (h : Path.Plain name) (front : String) :
    (front ++ name).toList.getLast? ≠ some '/' := by
  intro hs
  have hne : name.toList ≠ [] := by simpa using h.nonempty
  rw [String.toList_append, List.getLast?_append, List.getLast?_eq_some_getLast hne] at hs
  exact h.noSlash (List.mem_of_getLast? ((List.getLast?_eq_some_getLast hne).trans hs))

/-- The names on the way to an entry of a directory. -/
theorem steps_join (h : Path.Plain name) :
    steps (Path.join dir name) = names dir ++ [name] := by
  have hlast : (Path.join dir name).toList.getLast? ≠ some '/' := by
    rw [Path.join]
    split
    · simpa using getLast?_append_plain h ""
    · split
      · exact getLast?_append_plain h dir
      · exact getLast?_append_plain h (dir ++ "/")
  rw [steps, if_neg hlast, names_join h]

end FileTree

end Scaffold
