import TopicReader.Path

/-!
# `Proofs.Paths` — paths and their parts

A path is its root and its components. The normal form of a path has the same parts and nothing else in it, so it is
its own normal form; a name that is put below a directory becomes one more part behind those of the directory. That
holds for the root directory too, which ends with the slash that would otherwise be put in between.

## Contents
- **Pieces.** `Text.splitWhere_append`: a separator splits a text for itself.
- **Components.** `Path.IsComponent`, `Path.components_append` and `Path.components_joinParts`.
- **Normal form.** `Path.rootOf_normalize` and `Path.components_normalize`; `Path.normalize_ne_empty`.
- **Joining.** `Path.parts_join`.
-/

namespace TopicReader

open TopicReader.Text

/-! ## Pieces -/

namespace Text

variable {sep : Char → Bool}

theorem splitWhere_cons_of_pos {c : Char} (h : sep c = true) (cs : List Char) :
    splitWhere sep (c :: cs) = [] :: splitWhere sep cs := by
  rw [splitWhere, if_pos h]

/-- A character that separates nothing goes to the first piece. -/
theorem splitWhere_cons_of_neg {c : Char} (h : sep c = false) {cs piece : List Char} {pieces : List (List Char)}
    (hsplit : splitWhere sep cs = piece :: pieces) : splitWhere sep (c :: cs) = (c :: piece) :: pieces := by
  rw [splitWhere, if_neg (by simp [h]), hsplit]

/-- **A separator** splits a text into the pieces in front of it and those behind it. -/
theorem splitWhere_append {c : Char} (h : sep c = true) (cs ds : List Char) :
    splitWhere sep (cs ++ c :: ds) = splitWhere sep cs ++ splitWhere sep ds := by
  induction cs with
  | nil => exact splitWhere_cons_of_pos h ds
  | cons d cs ih =>
    rw [List.cons_append]
    by_cases hd : sep d = true
    · rw [splitWhere_cons_of_pos hd, splitWhere_cons_of_pos hd, ih]
      rfl
    · obtain ⟨piece, pieces, hsplit⟩ := List.exists_cons_of_ne_nil (splitWhere_ne_nil sep cs)
      rw [hsplit, List.cons_append] at ih
      have hneg := eq_false_of_ne_true hd
      rw [splitWhere_cons_of_neg hneg ih, splitWhere_cons_of_neg hneg hsplit]
      rfl

theorem splitWhere_of_forall {cs : List Char} (h : ∀ c ∈ cs, sep c = false) : splitWhere sep cs = [cs] := by
  induction cs with
  | nil => rfl
  | cons c cs ih =>
    obtain ⟨hc, hcs⟩ := List.forall_mem_cons.mp h
    exact splitWhere_cons_of_neg hc (ih hcs)

/-- There is no separator in a piece. -/
theorem sep_of_mem_splitWhere {cs piece : List Char} (h : piece ∈ splitWhere sep cs) :
    ∀ c ∈ piece, sep c = false := by
  induction cs generalizing piece with
  | nil =>
    cases List.mem_singleton.mp h
    exact List.forall_mem_nil _
  | cons d cs ih =>
    by_cases hd : sep d = true
    · rw [splitWhere_cons_of_pos hd] at h
      rcases List.mem_cons.mp h with rfl | hmem
      · exact List.forall_mem_nil _
      · exact ih hmem
    · obtain ⟨first, pieces, hsplit⟩ := List.exists_cons_of_ne_nil (splitWhere_ne_nil sep cs)
      have hneg := eq_false_of_ne_true hd
      rw [hsplit] at ih
      rw [splitWhere_cons_of_neg hneg hsplit] at h
      rcases List.mem_cons.mp h with rfl | hmem
      · exact List.forall_mem_cons.mpr ⟨hneg, ih List.mem_cons_self⟩
      · exact ih (List.mem_cons_of_mem _ hmem)

end Text

namespace Path

/-! ## Components -/

/-- A component names something: it is not empty, not `.`, and holds no slash. -/
structure IsComponent (part : List Char) : Prop where
  ne_nil : part ≠ []
  ne_dot : part ≠ ['.']
  noSlash : '/' ∉ part

theorem isComponent_of_mem_components {cs part : List Char} (h : part ∈ components cs) : IsComponent part := by
  obtain ⟨hmem, hkept⟩ := List.mem_filter.mp h
  simp only [Bool.and_eq_true, Bool.not_eq_true', List.isEmpty_eq_false_iff, bne_iff_ne] at hkept
  refine ⟨hkept.1, hkept.2, fun hslash => ?_⟩
  have hsep := sep_of_mem_splitWhere hmem _ hslash
  cases hsep

/-- **A slash** stands between the components in front of it and those behind it. -/
theorem components_append (cs ds : List Char) : components (cs ++ '/' :: ds) = components cs ++ components ds := by
  unfold components
  rw [splitWhere_append rfl, List.filter_append]

theorem components_slash (cs : List Char) : components ('/' :: cs) = components cs := components_append [] cs

theorem components_of_isComponent {part : List Char} (h : IsComponent part) : components part = [part] := by
  have hsep : ∀ c ∈ part, (c == '/') = false := fun c hc => beq_eq_false_iff_ne.mpr fun heq => h.noSlash (heq ▸ hc)
  unfold components
  rw [splitWhere_of_forall hsep, List.filter_cons_of_pos]
  · rfl
  · simp [h.ne_nil, h.ne_dot]

/-- Components are read back from what joins them. -/
theorem components_joinParts {ps : List (List Char)} (h : ∀ part ∈ ps, IsComponent part) :
    components (joinParts ps) = ps := by
  induction ps with
  | nil => rfl
  | cons part ps ih =>
    obtain ⟨hpart, hps⟩ := List.forall_mem_cons.mp h
    cases ps with
    | nil => exact components_of_isComponent hpart
    | cons next ps =>
      rw [joinParts, components_append, components_of_isComponent hpart, ih hps]
      · rfl
      · exact List.cons_ne_nil _ _

/-- What joins components starts with none of the slashes of a root. -/
theorem head?_joinParts {ps : List (List Char)} (h : ∀ part ∈ ps, IsComponent part) :
    (joinParts ps).head? ≠ some '/' := by
  cases ps with
  | nil => simp [joinParts]
  | cons part ps =>
    have hpart := h part List.mem_cons_self
    obtain ⟨c, rest, rfl⟩ := List.exists_cons_of_ne_nil hpart.ne_nil
    have hc : c ≠ '/' := fun heq => hpart.noSlash (heq ▸ List.mem_cons_self)
    cases ps with
    | nil => simpa [joinParts] using hc
    | cons next ps => simpa [joinParts] using hc

/-! ## Normal form -/

theorem rootOf_of_head? {cs : List Char} (h : cs.head? ≠ some '/') : rootOf cs = [] := by
  unfold rootOf
  split <;> simp_all

/-- The root of a path is nothing, one slash or two. -/
theorem rootOf_cases (cs : List Char) : rootOf cs = [] ∨ rootOf cs = ['/'] ∨ rootOf cs = ['/', '/'] := by
  unfold rootOf
  split <;> simp

/-- What goes on with no slash has the root that it starts with. -/
theorem rootOf_append_of_head? (cs : List Char) {ds : List Char} (h : ds.head? ≠ some '/') :
    rootOf (cs ++ ds) = rootOf cs := by
  fun_cases rootOf cs with
  | case1 => rfl
  | case2 rest hfurther => cases rest <;> cases ds <;> simp_all [rootOf]
  | case3 rest hfurther => cases rest <;> cases ds <;> simp_all [rootOf]
  | case4 hnone =>
    cases cs with
    | nil => exact rootOf_of_head? h
    | cons c cs => simp_all [rootOf]

/-- What does not end with a slash has its root already. -/
theorem rootOf_append_of_getLast? {cs : List Char} (hne : cs ≠ []) (h : cs.getLast? ≠ some '/') (ds : List Char) :
    rootOf (cs ++ ds) = rootOf cs := by
  fun_cases rootOf cs with
  | case1 => rfl
  | case2 rest hfurther => cases rest <;> simp_all [rootOf]
  | case3 rest hfurther => cases rest <;> simp_all [rootOf]
  | case4 hnone => cases cs <;> simp_all [rootOf]

theorem components_rootOf_append (cs ds : List Char) : components (rootOf cs ++ ds) = components ds := by
  rcases rootOf_cases cs with hroot | hroot | hroot <;> rw [hroot]
  · rfl
  · exact components_slash ds
  · exact (components_slash _).trans (components_slash ds)

/-- A root and components behind it. -/
def whole (cs : List Char) : List Char := rootOf cs ++ joinParts (components cs)

theorem normalize_toList (s : String) :
    (normalize s).toList = if (whole s.toList).isEmpty then ['.'] else whole s.toList := by
  show (if (whole s.toList).isEmpty then "." else String.ofList (whole s.toList)).toList = _
  split
  · rfl
  · exact String.toList_ofList

theorem components_whole (cs : List Char) : components (whole cs) = components cs := by
  unfold whole
  rw [components_rootOf_append, components_joinParts fun _ => isComponent_of_mem_components]

theorem rootOf_whole (cs : List Char) : rootOf (whole cs) = rootOf cs := by
  unfold whole
  rw [rootOf_append_of_head? _ (head?_joinParts fun _ => isComponent_of_mem_components)]
  rcases rootOf_cases cs with hroot | hroot | hroot <;> rw [hroot] <;> rfl

theorem components_normalize (s : String) : components (normalize s).toList = components s.toList := by
  rw [normalize_toList, ← components_whole s.toList]
  split
  · rename_i hempty
    rw [List.isEmpty_iff.mp hempty]
    rfl
  · rfl

theorem rootOf_normalize (s : String) : rootOf (normalize s).toList = rootOf s.toList := by
  rw [normalize_toList, ← rootOf_whole s.toList]
  split
  · rename_i hempty
    rw [List.isEmpty_iff.mp hempty]
    rfl
  · rfl

/-- **The normal form** of a path has its parts. -/
theorem parts_normalize (s : String) : parts (normalize s).toList = parts s.toList := by
  unfold parts
  rw [rootOf_normalize, components_normalize]

/-- The normal form is its own normal form. -/
theorem normalize_normalize (s : String) : normalize (normalize s) = normalize s := by
  have hwhole : whole (normalize s).toList = whole s.toList := by
    unfold whole
    rw [rootOf_normalize, components_normalize]
  apply String.toList_inj.mp
  rw [normalize_toList (normalize s), hwhole, normalize_toList s]

theorem normalize_ne_empty (s : String) : normalize s ≠ "" := by
  intro h
  have hlist := normalize_toList s
  rw [h] at hlist
  split at hlist
  · cases hlist
  · rename_i hsome
    exact hsome (List.isEmpty_iff.mpr hlist.symm)

/-! ## Joining -/

/-- A root of its own comes first among the parts, so what is behind the components is behind the parts. -/
theorem parts_of_components_append {cs ds part : List Char} (hroot : rootOf cs = rootOf ds)
    (h : components cs = components ds ++ [part]) : parts cs = parts ds ++ [part] := by
  unfold parts
  rw [hroot, h]
  split <;> rfl

/-- **A name below a directory** is one more part behind those of the directory. -/
theorem parts_join (directory : String) {name : String} (h : IsComponent name.toList) :
    parts (join directory name).toList = parts directory.toList ++ [name.toList] := by
  have hname := components_of_isComponent h
  unfold join
  split
  · -- The directory ends with a slash, as the root does, or is empty; the name follows right behind it.
    rename_i hslash
    have hhead : name.toList.head? ≠ some '/' := fun heq => h.noSlash (List.mem_of_mem_head? heq)
    rw [parts_normalize, String.toList_append]
    refine parts_of_components_append (rootOf_append_of_head? _ hhead) ?_
    rcases List.eq_nil_or_concat directory.toList with hnil | ⟨cs, c, hconcat⟩
    · rw [hnil]
      exact hname
    · have hc : c = '/' := by simpa [hconcat] using hslash
      rw [hconcat, hc, List.concat_eq_append, List.append_assoc, List.singleton_append, components_append,
        components_append, hname]
      exact congrArg (· ++ [name.toList]) (List.append_nil _).symm
  · rename_i hslash
    have hne : directory.toList ≠ [] := fun hnil => hslash (by rw [hnil]; rfl)
    have hlast : directory.toList.getLast? ≠ some '/' := fun heq => hslash (by rw [heq]; rfl)
    rw [parts_normalize, String.toList_append, String.toList_append, List.append_assoc]
    refine parts_of_components_append (rootOf_append_of_getLast? hne hlast _) ?_
    exact (components_append _ _).trans (congrArg _ hname)

theorem normalize_join (directory name : String) : normalize (join directory name) = join directory name := by
  unfold join
  split <;> exact normalize_normalize _

end Path

end TopicReader
