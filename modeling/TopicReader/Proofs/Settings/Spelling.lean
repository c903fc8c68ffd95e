import Mathlib.Data.List.Forall2
import TopicReader.Proofs.Decimals
import TopicReader.Proofs.Settings.Typed

/-!
# `Proofs.Settings.Spelling` — which spellings of a property mean the same

Neither letter case nor the joints between the words of a name count for its key, and a topic mark in front of it does
not either. But the mark is looked for in the name as it is written, before the case is lowered: one with a capital
letter in it, or with another joint, is no mark, and stays in the key. Names that differ in case and joints only
therefore have the same key exactly if both of them are marked or neither is; a mark that is missed makes the property
unknown.

## Contents
- **Characters.** `SameLetter`: nothing but the case of a letter differs; `Text.lowerAfter_congr`.
- **Names.** `Property.Fits` and `Property.Similar`: joints may differ too. `Property.Marked`.
- **Keys.** `Property.wholeKey`: the key of a name with its mark; `wholeKey_congr` and `wholeKey_of_marked`.
- **The law.** `Property.normalize_similar`.
-/

namespace TopicReader

open TopicReader.Text

/-! ## Characters -/

/-- **Two characters that differ in nothing but the case** of a letter of the alphabet. -/
inductive SameLetter : Char → Char → Prop where
  | same (c : Char) : SameLetter c c
  | raised (n : Fin 26) : SameLetter (Char.ofNat (0x61 + n)) (Char.ofNat (0x41 + n))
  | lowered (n : Fin 26) : SameLetter (Char.ofNat (0x41 + n)) (Char.ofNat (0x61 + n))

theorem sameLetter_iff {c d : Char} :
    SameLetter c d ↔ c = d ∨ ∃ n : Fin 26, c = Char.ofNat (0x61 + n) ∧ d = Char.ofNat (0x41 + n)
      ∨ c = Char.ofNat (0x41 + n) ∧ d = Char.ofNat (0x61 + n) := by
  constructor
  · intro h
    cases h with
    | same => exact Or.inl rfl
    | raised n => exact Or.inr ⟨n, Or.inl ⟨rfl, rfl⟩⟩
    | lowered n => exact Or.inr ⟨n, Or.inr ⟨rfl, rfl⟩⟩
  · rintro (rfl | ⟨n, ⟨rfl, rfl⟩ | ⟨rfl, rfl⟩⟩)
    · exact .same c
    · exact .raised n
    · exact .lowered n

instance : DecidableRel SameLetter := fun _ _ => decidable_of_iff _ sameLetter_iff.symm

/-- What has the same value on the small letters and the capital ones does not tell cases apart. -/
theorem SameLetter.congr {α : Type} {f : Char → α}
    (hf : ∀ n : Fin 26, f (Char.ofNat (0x61 + n)) = f (Char.ofNat (0x41 + n))) {c d : Char} (h : SameLetter c d) :
    f c = f d := by
  cases h with
  | same => rfl
  | raised n => exact hf n
  | lowered n => exact (hf n).symm

section

variable {c d : Char} (h : SameLetter c d)
include h

theorem SameLetter.isBlank_eq : isBlank c = isBlank d := h.congr (f := isBlank) (by decide)

theorem SameLetter.isCased_eq : isCased c = isCased d := h.congr (f := isCased) (by decide +kernel)

theorem SameLetter.isIgnorable_eq : isIgnorable c = isIgnorable d := h.congr (f := isIgnorable) (by decide +kernel)

theorem SameLetter.lowerOne_eq : lowerOne c = lowerOne d := h.congr (f := lowerOne) (by decide)

/-- The two characters with a rule of their own are no letters of the alphabet. -/
theorem SameLetter.toNat_eq_iff {n : Nat} (hn : 0x80 ≤ n) : c.toNat = n ↔ d.toNat = n := by
  have hsmall : ∀ k : Fin 26, (Char.ofNat (0x61 + k)).toNat < 0x80 := by decide
  have hcapital : ∀ k : Fin 26, (Char.ofNat (0x41 + k)).toNat < 0x80 := by decide
  refine iff_of_eq (h.congr (f := fun c => c.toNat = n) fun k => propext (iff_of_false ?_ ?_))
  · exact ((hsmall k).trans_le hn).ne
  · exact ((hcapital k).trans_le hn).ne

end

namespace Text

/-- The predicate of related characters is the same, so as many of them are dropped. -/
theorem forall₂_dropWhile {R : Char → Char → Prop} {p : Char → Bool} (hp : ∀ c d, R c d → p c = p d)
    {cs ds : List Char} (h : List.Forall₂ R cs ds) : List.Forall₂ R (cs.dropWhile p) (ds.dropWhile p) := by
  induction h with
  | nil => exact .nil
  | @cons c d cs ds hcd hrest ih =>
    by_cases hc : p c = true
    · rw [List.dropWhile_cons_of_pos hc, List.dropWhile_cons_of_pos (hp c d hcd ▸ hc)]
      exact ih
    · rw [List.dropWhile_cons_of_neg hc, List.dropWhile_cons_of_neg (hp c d hcd ▸ hc)]
      exact .cons hcd hrest

theorem forall₂_trim {R : Char → Char → Prop} (hp : ∀ c d, R c d → isBlank c = isBlank d) {cs ds : List Char}
    (h : List.Forall₂ R cs ds) : List.Forall₂ R (trim cs) (trim ds) :=
  List.rel_reverse (forall₂_dropWhile hp (List.rel_reverse (forall₂_dropWhile hp h)))

theorem meetsCased_congr {cs ds : List Char} (h : List.Forall₂ SameLetter cs ds) : meetsCased cs = meetsCased ds := by
  have hrest := forall₂_dropWhile (p := isIgnorable) (fun _ _ hcd => hcd.isIgnorable_eq) h
  unfold meetsCased
  generalize cs.dropWhile isIgnorable = left at hrest
  generalize ds.dropWhile isIgnorable = right at hrest
  cases hrest with
  | nil => rfl
  | cons hcd _ => exact hcd.isCased_eq

/-- **Case does not count in lower case**, neither in the characters nor in those before them. -/
theorem lowerAfter_congr {cs ds : List Char} (h : List.Forall₂ SameLetter cs ds) {before other : List Char}
    (hbefore : List.Forall₂ SameLetter before other) : lowerAfter before cs = lowerAfter other ds := by
  -- A sigma looks at the characters on both sides of it, so those before are related too along the induction.
  induction h generalizing before other with
  | nil => rfl
  | @cons c d cs ds hcd hrest ih =>
    have hdotted : c.toNat = 0x130 ↔ d.toNat = 0x130 := hcd.toNat_eq_iff (by decide)
    have hsigma : c.toNat = 0x3a3 ↔ d.toNat = 0x3a3 := hcd.toNat_eq_iff (by decide)
    rw [lowerAfter, lowerAfter, ih (.cons hcd hbefore)]
    simp only [hdotted, hsigma, hcd.lowerOne_eq, meetsCased_congr hbefore, meetsCased_congr hrest]

theorem meetsCased_underscore (before more : List Char) :
    meetsCased (before ++ '_' :: more) = meetsCased before := by
  induction before with
  | nil =>
    have hignorable : ¬ isIgnorable '_' = true := by decide +kernel
    have hcased : isCased '_' = false := by decide +kernel
    unfold meetsCased
    rw [List.nil_append, List.dropWhile_cons_of_neg hignorable]
    exact hcased
  | cons c before ih =>
    by_cases hc : isIgnorable c = true
    · unfold meetsCased at ih ⊢
      rw [List.cons_append, List.dropWhile_cons_of_pos hc, List.dropWhile_cons_of_pos hc]
      exact ih
    · unfold meetsCased
      rw [List.cons_append, List.dropWhile_cons_of_neg hc, List.dropWhile_cons_of_neg hc]

/-- A word is lowered without regard to what stands before the underscore in front of it. -/
theorem lowerAfter_underscore (cs before more : List Char) :
    lowerAfter (before ++ '_' :: more) cs = lowerAfter before cs := by
  induction cs generalizing before with
  | nil => rfl
  | cons c rest ih => rw [lowerAfter, lowerAfter, ← List.cons_append, ih, meetsCased_underscore]

end Text

namespace Property

/-! ## Names -/

/-- What may stand between the words of a name. -/
def joints : List Char := ['.', '-', '_']

/-- Two characters that fit: the same letter, or two joints. -/
inductive Fits : Char → Char → Prop where
  | letter {c d : Char} (same : SameLetter c d) : Fits c d
  | joint {c d : Char} (left : c ∈ joints) (right : d ∈ joints) : Fits c d

theorem fits_iff {c d : Char} : Fits c d ↔ SameLetter c d ∨ c ∈ joints ∧ d ∈ joints := by
  constructor
  · intro h
    cases h with
    | letter same => exact Or.inl same
    | joint left right => exact Or.inr ⟨left, right⟩
  · rintro (same | ⟨left, right⟩)
    · exact .letter same
    · exact .joint left right

instance : DecidableRel Fits := fun _ _ => decidable_of_iff _ fits_iff.symm

/-- **Similar names**: nothing but letter case and the joints between the words differs. -/
def Similar (a b : String) : Prop := List.Forall₂ Fits a.toList b.toList

/-- A marked name has a topic mark in front, letter by letter. -/
def Marked (name : String) : Prop := topicMark <+: trim name.toList

instance : DecidablePred Marked := fun name => inferInstanceAs (Decidable (topicMark <+: trim name.toList))

theorem Fits.isBlank_eq {c d : Char} (h : Fits c d) : isBlank c = isBlank d := by
  have hjoints : ∀ c ∈ joints, isBlank c = false := forall_mem_of_all (by decide)
  cases h with
  | letter same => exact same.isBlank_eq
  | joint left right => rw [hjoints c left, hjoints d right]

/-- Underscores are put for joints, and letters stay what they are. -/
theorem Fits.underscored {c d : Char} (h : Fits c d) : SameLetter (underscored c) (underscored d) := by
  have hjoints : ∀ c ∈ joints, Property.underscored c = '_' := forall_mem_of_all (by decide)
  cases h with
  | joint left right =>
    rw [hjoints c left, hjoints d right]
    exact .same '_'
  | letter same =>
    have hsmall : ∀ n : Fin 26, Property.underscored (Char.ofNat (0x61 + n)) = Char.ofNat (0x61 + n) := by decide
    have hcapital : ∀ n : Fin 26, Property.underscored (Char.ofNat (0x41 + n)) = Char.ofNat (0x41 + n) := by decide
    cases same with
    | same => exact .same _
    | raised n =>
      rw [hsmall, hcapital]
      exact .raised n
    | lowered n =>
      rw [hsmall, hcapital]
      exact .lowered n

/-! ## Keys -/

/-- The key of a name that keeps its topic mark. -/
def wholeKey (name : String) : List Char := lowerAfter [] ((trim name.toList).map underscored)

/-- **Similar names have the same key**, with their marks. -/
theorem wholeKey_congr {a b : String} (h : Similar a b) : wholeKey a = wholeKey b := by
  have htrim := forall₂_trim (fun _ _ => Fits.isBlank_eq) h
  refine lowerAfter_congr ?_ .nil
  rw [List.forall₂_map_left_iff, List.forall₂_map_right_iff]
  exact htrim.imp fun _ _ => Fits.underscored

theorem toList_normalize (name : String) :
    (normalize name).toList = lowerAfter [] ((bareName name).map underscored) := by
  unfold normalize lower
  rw [String.toList_ofList, String.toList_ofList]

theorem normalize_of_not_marked {name : String} (h : ¬ Marked name) : (normalize name).toList = wholeKey name := by
  have hbare : bareName name = trim name.toList := if_neg fun hprefix => h (List.isPrefixOf_iff_prefix.mp hprefix)
  rw [toList_normalize, hbare]
  rfl

/-- A mark is what the key begins with where it is kept. -/
theorem wholeKey_of_marked {name : String} (h : Marked name) :
    wholeKey name = "topic_".toList ++ (normalize name).toList := by
  obtain ⟨rest, hrest⟩ := h
  have hbare : bareName name = rest := by
    unfold bareName
    rw [← hrest, if_pos (List.isPrefixOf_iff_prefix.mpr (List.prefix_append _ _)), List.drop_left]
  have hplain : ∀ c ∈ "topic_".toList, IsPlain c := by
    unfold IsPlain
    exact forall_mem_of_all (by decide)
  -- The mark is lowered to itself, and the underscore at its end hides it from what comes behind.
  have hkey : wholeKey name = lowerAfter [] ("topic_".toList ++ rest.map underscored) := by
    unfold wholeKey
    rw [← hrest, List.map_append]
    rfl
  rw [hkey, lowerAfter_append_of_isPlain hplain]
  rw [toList_normalize, hbare]
  exact congrArg _ (lowerAfter_underscore _ [] "cipot".toList)

/-- No key of a supported property begins as a mark that is kept. -/
theorem not_isSupported_of_topic {key : String} {rest : List Char} (h : key.toList = "topic_".toList ++ rest) :
    isSupported key = false := by
  have htable : ∀ p ∈ supported, ¬ "topic_".toList <+: p.1.toList := by decide
  refine eq_false_of_ne_true fun hkey => ?_
  obtain ⟨p, hp, heq⟩ := List.any_eq_true.mp hkey
  exact htable p hp ⟨rest, by rw [eq_of_beq heq, h]⟩

/-! ## The law -/

variable {a b : String}

theorem normalize_eq_of_marks (h : wholeKey a = wholeKey b) (hmarks : Marked a ↔ Marked b) :
    normalize a = normalize b := by
  apply String.toList_inj.mp
  by_cases ha : Marked a
  · rw [wholeKey_of_marked ha, wholeKey_of_marked (hmarks.mp ha)] at h
    exact List.append_cancel_left h
  · rw [normalize_of_not_marked ha, normalize_of_not_marked fun hb => ha (hmarks.mpr hb), h]

/-- A mark that is missed stays in the key. -/
theorem normalize_eq_of_missed (h : wholeKey a = wholeKey b) (ha : Marked a) (hb : ¬ Marked b) :
    normalize b = "topic_" ++ normalize a := by
  apply String.toList_inj.mp
  rw [String.toList_append, normalize_of_not_marked hb, ← h, wholeKey_of_marked ha]

theorem normalize_ne_of_missed (h : wholeKey a = wholeKey b) (ha : Marked a) (hb : ¬ Marked b) :
    normalize a ≠ normalize b := by
  intro heq
  have hlength := congrArg String.length (heq.trans (normalize_eq_of_missed h ha hb))
  rw [String.length_append] at hlength
  have hmark : "topic_".length = 6 := by decide
  omega

theorem ofPair_congr (h : normalize a = normalize b) (v : Value) (p : String × Value) :
    ofPair a v = .ok p ↔ ofPair b v = .ok p := by
  unfold ofPair
  rw [h]
  by_cases hkey : isSupported (normalize b) = true
  · simp only [hkey, if_true]
  · simp only [hkey, if_false, reduceCtorEq]

/-- **Similar names** have the same key, and set the same, where both are marked or neither is. Where only the first
    one is, the key of the second one begins with its mark in lower case, and the second one is refused as unknown. -/
theorem normalize_similar (a b : String) (h : Similar a b) :
    ((Marked a ↔ Marked b) → normalize a = normalize b ∧ ∀ v p, ofPair a v = .ok p ↔ ofPair b v = .ok p)
      ∧ (Marked a → ¬ Marked b → normalize b = "topic_" ++ normalize a
          ∧ ∀ v, ofPair b v = .error (.misconfigured (.unknownProperty b)))
      ∧ (normalize a = normalize b ↔ (Marked a ↔ Marked b)) := by
  have hkey := wholeKey_congr h
  refine ⟨fun hmarks => ?_, fun ha hb => ?_, fun heq => ?_, normalize_eq_of_marks hkey⟩
  · have heq := normalize_eq_of_marks hkey hmarks
    exact ⟨heq, ofPair_congr heq⟩
  · have hmissed := normalize_eq_of_missed hkey ha hb
    have hunknown : isSupported (normalize b) = false :=
      not_isSupported_of_topic (by rw [hmissed, String.toList_append])
    exact ⟨hmissed, ofPair_of_not_accepts fun haccepts => by rw [Accepts, hunknown] at haccepts; cases haccepts⟩
  · by_contra hmarks
    by_cases ha : Marked a
    · exact normalize_ne_of_missed hkey ha (fun hb => hmarks (iff_of_true ha hb)) heq
    · by_cases hb : Marked b
      · exact normalize_ne_of_missed hkey.symm hb ha heq.symm
      · exact hmarks (iff_of_false ha hb)

/-- Two marked spellings of one property, and a third one with a mark that is missed. -/
theorem normalize_similar_of_spellings :
    normalize "topic.group.id" = normalize "topic.GROUP-Id"
      ∧ normalize "Topic-group_id" = "topic_" ++ normalize "topic.group.id" := by
  have hmarked : Marked "topic.group.id" := by decide +kernel
  obtain ⟨hsame, -, -⟩ := normalize_similar "topic.group.id" "topic.GROUP-Id" (by unfold Similar; decide +kernel)
  obtain ⟨-, hmissed, -⟩ := normalize_similar "topic.group.id" "Topic-group_id" (by unfold Similar; decide +kernel)
  exact ⟨(hsame (iff_of_true hmarked (by decide +kernel))).1, (hmissed hmarked (by decide +kernel)).1⟩

/-- Case counts in a mark: with a capital letter it is none, and the property is not supported. -/
theorem normalize_tells_case_of_mark :
    List.Forall₂ SameLetter "topic.group.id".toList "Topic.group.id".toList
      ∧ normalize "topic.group.id" = "group_id" ∧ normalize "Topic.group.id" = "topic_group_id"
      ∧ Accepts "topic.group.id" ∧ ¬ Accepts "Topic.group.id" := by
  decide +kernel

end Property

end TopicReader
