import Mathlib.Data.List.Perm.Basic
import TopicReader.Proofs.Json
import TopicReader.Proofs.Settings.Typed

/-!
# `Proofs.Documents` — which values have a document

A value is turned into a document by going through it once, and three things in it have none: an integer that is too
long to be written out, be it the number of an offset, a set whose items have no common order, and a key of a mapping
that is no name. Nothing else is refused, and the numbers of the document are those of the value.

## Contents
- **Steps in turn.** `Value.inTurn_eq_ok_iff`.
- **Order.** `sortOn_perm`: putting items in order loses none and adds none; `sortOn_map`: whether there is an order is
  decided by the keys alone.
- **Values with a document.** `Value.storable` and `Value.toJson_ok_iff`.
- **Finite numbers.** `Value.isFinite` and `Value.toJson_isFinite`.
-/

namespace TopicReader

/-! ## Steps in turn -/

theorem exists_map_ok_iff {α β : Type} {r : Except Failure α} {k : α → β} :
    (∃ b, r.map k = .ok b) ↔ ∃ a, r = .ok a := by
  simp only [map_eq_ok_iff]
  constructor
  · rintro ⟨b, a, ha, -⟩
    exact ⟨a, ha⟩
  · rintro ⟨a, ha⟩
    exact ⟨k a, a, ha, rfl⟩

namespace Value

variable {α : Type} {steps : List (Except Failure α)} {xs : List α}

/-- **All steps come to something** if they do in turn. -/
theorem inTurn_eq_ok_iff : inTurn steps = .ok xs ↔ steps = xs.map .ok := by
  induction steps generalizing xs with
  | nil =>
    cases xs with
    | nil => exact iff_of_true rfl rfl
    | cons x more => exact iff_of_false (fun h => nomatch h) (fun h => nomatch h)
  | cons step rest ih =>
    unfold inTurn
    constructor
    · intro h
      obtain ⟨x, hx, h⟩ := bind_eq_ok_iff.mp h
      obtain ⟨more, hmore, h⟩ := bind_eq_ok_iff.mp h
      cases h
      rw [hx, ih.mp hmore]
      rfl
    · intro h
      cases xs with
      | nil => cases h
      | cons x more =>
        obtain ⟨hx, hmore⟩ := List.cons.inj h
        rw [hx, ih.mpr hmore]
        rfl

theorem inTurn_ok_iff : (∃ xs, inTurn steps = .ok xs) ↔ ∀ step ∈ steps, ∃ x, step = .ok x := by
  constructor
  · rintro ⟨xs, h⟩ step hstep
    rw [inTurn_eq_ok_iff.mp h] at hstep
    obtain ⟨x, -, hx⟩ := List.mem_map.mp hstep
    exact ⟨x, hx.symm⟩
  · intro h
    induction steps with
    | nil => exact ⟨[], rfl⟩
    | cons step rest ih =>
      obtain ⟨⟨x, rfl⟩, hrest⟩ := List.forall_mem_cons.mp h
      obtain ⟨more, hmore⟩ := ih hrest
      exact ⟨x :: more, inTurn_eq_ok_iff.mpr (congrArg _ (inTurn_eq_ok_iff.mp hmore))⟩

end Value

/-! ## Order -/

section Order

variable {α : Type} {key : α → Value}

theorem insertOn_perm {x : α} {ys zs : List α} (h : insertOn key x ys = .ok zs) : zs.Perm (x :: ys) := by
  induction ys generalizing zs with
  | nil =>
    cases h
    exact .refl _
  | cons y rest ih =>
    obtain ⟨below, _, h⟩ := bind_eq_ok_iff.mp h
    cases below with
    | true =>
      cases h
      exact .refl _
    | false =>
      obtain ⟨ws, hws, h⟩ := bind_eq_ok_iff.mp h
      cases h
      exact ((ih hws).cons y).trans (.swap x y rest)

/-- **Putting items in order** loses none and adds none. -/
theorem sortOn_perm {xs ys : List α} (h : sortOn key xs = .ok ys) : ys.Perm xs := by
  have hfold : ∀ (xs acc ys : List α), xs.foldlM (fun acc x => insertOn key x acc) acc = .ok ys →
      ys.Perm (xs ++ acc) := by
    intro xs
    induction xs with
    | nil =>
      intro acc ys h
      cases h
      exact .refl _
    | cons x rest ih =>
      intro acc ys h
      rw [List.foldlM_cons] at h
      obtain ⟨zs, hzs, h⟩ := bind_eq_ok_iff.mp h
      exact (ih zs ys h).trans (((insertOn_perm hzs).append_left rest).trans List.perm_middle)
  have hperm := hfold xs [] ys h
  rwa [List.append_nil] at hperm

theorem insertOn_map (key : α → Value) (x : α) (ys : List α) :
    (insertOn key x ys).map (List.map key) = insertOn id (key x) (ys.map key) := by
  induction ys with
  | nil => rfl
  | cons y rest ih =>
    rw [List.map_cons, insertOn, insertOn, id_eq, id_eq, ← ih]
    cases Value.less (key x) (key y) with
    | error f => rfl
    | ok below =>
      cases below with
      | true => rfl
      | false => cases insertOn key x rest <;> rfl

/-- **Whether items can be put in order**, and how, is decided by their keys alone. -/
theorem sortOn_map (key : α → Value) (xs : List α) : (sortOn key xs).map (List.map key) = sortValues (xs.map key) := by
  have hfold : ∀ acc : List α, (xs.foldlM (fun acc x => insertOn key x acc) acc).map (List.map key)
      = (xs.map key).foldlM (fun acc x => insertOn id x acc) (acc.map key) := by
    induction xs with
    | nil => exact fun acc => rfl
    | cons x rest ih =>
      intro acc
      rw [List.map_cons, List.foldlM_cons, List.foldlM_cons, ← insertOn_map]
      cases insertOn key x acc with
      | error f => rfl
      | ok ys => exact ih ys
  exact hfold []

theorem sortOn_ok_iff {xs : List α} : (∃ ys, sortOn key xs = .ok ys) ↔ ∃ vs, sortValues (xs.map key) = .ok vs := by
  rw [← sortOn_map]
  constructor
  · rintro ⟨ys, h⟩
    exact ⟨_, by rw [h]; rfl⟩
  · rintro ⟨vs, h⟩
    obtain ⟨ys, hys, -⟩ := map_eq_ok_iff.mp h
    exact ⟨ys, hys⟩

end Order

namespace Value

/-! ## Values with a document -/

/-- Can a key be the name of a member? -/
def isName : Value → Bool
  | .text _ | .float _ | .bool _ | .null => true
  | .int n => !(Value.int n).holdsLong
  | _ => false

mutual

/-- **Has a value a document?** Its integers and the numbers of its offsets are short enough, its sets can be put in
    order, and the keys of its mappings can be names. -/
def storable (v : Value) : Bool :=
  match v with
  | .int n => !(Value.int n).holdsLong
  | .offset o => !(Value.offset o).holdsLong
  | .list xs => storableAll xs
  | .tuple xs => storableAll xs
  | .set _ xs => (sortValues xs).toOption.isSome && storableAll xs
  | .map es => storableEntries es
  | .null | .bool _ | .float _ | .text _ | .bytes _ _ | .date _ | .time _ | .path _ | .category _ | .foreign _ _ => true

/-- Has every item one? -/
def storableAll (xs : List Value) : Bool :=
  match xs with
  | [] => true
  | x :: rest => storable x && storableAll rest

/-- Has every entry one? -/
def storableEntries (es : List (Value × Value)) : Bool :=
  match es with
  | [] => true
  | (k, v) :: rest => isName k && storable v && storableEntries rest

end

theorem holdsLong_int (n : Int) : (Value.int n).holdsLong = decide (longBound ≤ n.natAbs) := by
  rw [holdsLong]

theorem memberName_ok_iff (k : Value) : (∃ name, memberName k = .ok name) ↔ k.isName = true := by
  cases k with
  | int n =>
    rw [isName, holdsLong_int, memberName]
    by_cases hlong : longBound ≤ n.natAbs
    · simp [hlong]
    · simp [hlong]
  | _ => simp [isName, memberName]

theorem toOption_isSome_iff {α : Type} {r : Except Failure α} : r.toOption.isSome = true ↔ ∃ a, r = .ok a := by
  cases r <;> simp [Except.toOption]

theorem length_toJsonAll (xs : List Value) : (toJsonAll xs).length = xs.length := by
  induction xs with
  | nil => rfl
  | cons x rest ih => rw [toJsonAll, List.length_cons, List.length_cons, ih]

/-- The items of a set in order are its items, each with its document. -/
theorem ordered_perm {xs : List Value} {ordered : List (Value × Except Failure Json)}
    (h : sortOn (fun p => p.1) (xs.zip (toJsonAll xs)) = .ok ordered) : (ordered.map (·.2)).Perm (toJsonAll xs) := by
  have hperm := (sortOn_perm h).map (·.2)
  rwa [List.map_snd_zip (length_toJsonAll xs).le] at hperm

/-- A set can be put in order with the documents of its items beside them if it can be without. -/
theorem ordered_ok_iff (xs : List Value) :
    (∃ ordered, sortOn (fun p => p.1) (xs.zip (toJsonAll xs)) = .ok ordered) ↔ ∃ ys, sortValues xs = .ok ys := by
  rw [sortOn_ok_iff, List.map_fst_zip (length_toJsonAll xs).ge]

mutual

/-- **Which values have a document.** -/
theorem toJson_ok_iff (v : Value) : (∃ j, v.toJson = .ok j) ↔ v.storable = true := by
  cases v with
  | int n =>
    rw [storable, holdsLong_int, toJson]
    by_cases hlong : longBound ≤ n.natAbs <;> simp [hlong]
  | offset o =>
    rw [storable, toJson]
    cases (Value.offset o).holdsLong <;> simp
  | list xs | tuple xs =>
    rw [storable, ← toJsonAll_ok_iff xs, ← inTurn_ok_iff, toJson, exists_map_ok_iff]
  | set frozen xs =>
    rw [storable, Bool.and_eq_true, toOption_isSome_iff, ← ordered_ok_iff, ← toJsonAll_ok_iff xs, toJson]
    constructor
    · rintro ⟨j, h⟩
      obtain ⟨ordered, hordered, h⟩ := bind_eq_ok_iff.mp h
      obtain ⟨js, hjs, -⟩ := bind_eq_ok_iff.mp h
      exact ⟨⟨ordered, hordered⟩, fun step hstep =>
        inTurn_ok_iff.mp ⟨js, hjs⟩ step ((ordered_perm hordered).mem_iff.mpr hstep)⟩
    · rintro ⟨⟨ordered, hordered⟩, hsteps⟩
      obtain ⟨js, hjs⟩ := inTurn_ok_iff.mpr fun step hstep => hsteps step ((ordered_perm hordered).mem_iff.mp hstep)
      exact ⟨.array js, bind_eq_ok_iff.mpr ⟨ordered, hordered, bind_eq_ok_iff.mpr ⟨js, hjs, rfl⟩⟩⟩
  | map es =>
    rw [storable, ← toJsonMembers_ok_iff es, toJson, exists_map_ok_iff]
  | null | bool _ | float _ | text _ | bytes _ _ | date _ | time _ | path _ | category _ | foreign _ _ =>
    rw [storable, toJson]
    exact iff_of_true ⟨_, rfl⟩ rfl

theorem toJsonAll_ok_iff (xs : List Value) : (∀ step ∈ toJsonAll xs, ∃ j, step = .ok j) ↔ storableAll xs = true := by
  cases xs with
  | nil =>
    rw [toJsonAll, storableAll]
    exact iff_of_true (List.forall_mem_nil _) rfl
  | cons x rest =>
    rw [toJsonAll, storableAll, List.forall_mem_cons, Bool.and_eq_true, toJson_ok_iff x, toJsonAll_ok_iff rest]

theorem toJsonMembers_ok_iff (es : List (Value × Value)) :
    (∃ ms, toJsonMembers es = .ok ms) ↔ storableEntries es = true := by
  cases es with
  | nil =>
    rw [toJsonMembers, storableEntries]
    exact iff_of_true ⟨_, rfl⟩ rfl
  | cons e rest =>
    obtain ⟨k, v⟩ := e
    rw [toJsonMembers, storableEntries, Bool.and_eq_true, Bool.and_eq_true, ← memberName_ok_iff, ← toJson_ok_iff v,
      ← toJsonMembers_ok_iff rest]
    constructor
    · rintro ⟨ms, h⟩
      obtain ⟨name, hname, h⟩ := bind_eq_ok_iff.mp h
      obtain ⟨j, hj, h⟩ := bind_eq_ok_iff.mp h
      obtain ⟨more, hmore, -⟩ := bind_eq_ok_iff.mp h
      exact ⟨⟨⟨name, hname⟩, j, hj⟩, more, hmore⟩
    · rintro ⟨⟨⟨name, hname⟩, j, hj⟩, more, hmore⟩
      rw [hname, hj, hmore]
      exact ⟨_, rfl⟩

end

/-! ## Finite numbers -/

mutual

/-- **Are all numbers of a value finite?** Keys do not count: they become names. -/
def isFinite (v : Value) : Bool :=
  match v with
  | .float x => x.isFinite
  | .list xs => isFiniteAll xs
  | .tuple xs => isFiniteAll xs
  | .set _ xs => isFiniteAll xs
  | .map es => isFiniteEntries es
  | .null | .bool _ | .int _ | .text _ | .bytes _ _ | .date _ | .time _ | .path _ | .category _ | .offset _
  | .foreign _ _ => true

/-- Are those of all items? -/
def isFiniteAll (xs : List Value) : Bool :=
  match xs with
  | [] => true
  | x :: rest => isFinite x && isFiniteAll rest

/-- Are those of all entries? -/
def isFiniteEntries (es : List (Value × Value)) : Bool :=
  match es with
  | [] => true
  | (_, v) :: rest => isFinite v && isFiniteEntries rest

end

/-- **The documents of a set** are those of its items in the order of the line, rearranged. -/
theorem documents_perm {xs : List Value} {ordered : List (Value × Except Failure Json)} {js : List Json}
    (hordered : sortOn (fun p => p.1) (xs.zip (toJsonAll xs)) = .ok ordered)
    (hjs : inTurn (ordered.map (·.2)) = .ok js) : ∃ ks, toJsonAll xs = ks.map .ok ∧ js.Perm ks := by
  have hperm : (toJsonAll xs).Perm (js.map .ok) := (inTurn_eq_ok_iff.mp hjs) ▸ (ordered_perm hordered).symm
  have hall : ∀ step ∈ toJsonAll xs, ∃ j, step = .ok j := by
    intro step hstep
    obtain ⟨j, -, hj⟩ := List.mem_map.mp (hperm.mem_iff.mp hstep)
    exact ⟨j, hj.symm⟩
  obtain ⟨ks, hks⟩ := inTurn_ok_iff.mpr hall
  have hsteps : toJsonAll xs = ks.map .ok := inTurn_eq_ok_iff.mp hks
  rw [hsteps] at hperm
  exact ⟨ks, hsteps, (List.map_perm_map_iff fun _ _ h => Except.ok.inj h).mp hperm.symm⟩

mutual

/-- **The numbers of a document** are finite exactly if those of its value are. -/
theorem toJson_isFinite {v : Value} {j : Json} (h : v.toJson = .ok j) : j.isFinite = v.isFinite := by
  cases v with
  | int _ | offset _ =>
    rw [toJson] at h
    split at h
    · cases h
    · cases h
      simp only [Json.isFinite, isFinite]
  | list xs | tuple xs =>
    rw [toJson] at h
    obtain ⟨js, hjs, rfl⟩ := map_eq_ok_iff.mp h
    rw [Json.isFinite, isFinite, toJsonAll_isFinite (inTurn_eq_ok_iff.mp hjs)]
  | set frozen xs =>
    rw [toJson] at h
    obtain ⟨ordered, hordered, h⟩ := bind_eq_ok_iff.mp h
    obtain ⟨js, hjs, h⟩ := bind_eq_ok_iff.mp h
    cases h
    obtain ⟨ks, hall, hsame⟩ := documents_perm hordered hjs
    rw [Json.isFinite, isFinite, ← toJsonAll_isFinite hall, Json.isFiniteAll_eq_all, Json.isFiniteAll_eq_all,
      hsame.all_eq]
  | map es =>
    rw [toJson] at h
    obtain ⟨ms, hms, rfl⟩ := map_eq_ok_iff.mp h
    rw [Json.isFinite, isFinite, toJsonMembers_isFinite hms]
  | null | bool _ | float _ | text _ | bytes _ _ | date _ | time _ | path _ | category _ | foreign _ _ =>
    rw [toJson] at h
    cases h
    simp only [Json.isFinite, isFinite]

theorem toJsonAll_isFinite {xs : List Value} {js : List Json} (h : toJsonAll xs = js.map .ok) :
    Json.isFiniteAll js = isFiniteAll xs := by
  cases xs with
  | nil =>
    rw [toJsonAll] at h
    rw [List.map_eq_nil_iff.mp h.symm, Json.isFiniteAll, isFiniteAll]
  | cons x rest =>
    rw [toJsonAll] at h
    cases js with
    | nil => cases h
    | cons j more =>
      obtain ⟨hj, hmore⟩ := List.cons.inj h
      rw [Json.isFiniteAll, isFiniteAll, toJson_isFinite hj, toJsonAll_isFinite hmore]

theorem toJsonMembers_isFinite {es : List (Value × Value)} {ms : List (String × Json)}
    (h : toJsonMembers es = .ok ms) : Json.isFiniteMembers ms = isFiniteEntries es := by
  cases es with
  | nil =>
    rw [toJsonMembers] at h
    cases h
    rw [Json.isFiniteMembers, isFiniteEntries]
  | cons e rest =>
    obtain ⟨k, v⟩ := e
    rw [toJsonMembers] at h
    obtain ⟨name, -, h⟩ := bind_eq_ok_iff.mp h
    obtain ⟨j, hj, h⟩ := bind_eq_ok_iff.mp h
    obtain ⟨more, hmore, h⟩ := bind_eq_ok_iff.mp h
    cases h
    rw [Json.isFiniteMembers, isFiniteEntries, toJson_isFinite hj, toJsonMembers_isFinite hmore]

end

end Value

end TopicReader
