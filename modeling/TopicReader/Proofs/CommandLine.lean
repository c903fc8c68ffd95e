import TopicReader.Proofs.Settings.Typed

/-!
# `Proofs.CommandLine` — what every accepted command line asks for

A command line is read word by word, and each option changes what is asked for a little. Here the invariant of that
reading is stated once, and shown for one option, for the options of one word and for all words: delimiters are single
bytes, and numbers can be written out again. What the last check adds — a topic, unless there is a command — is stated
next to it.

## Contents
- **Delimiters.** `Delimiter.length_of_ofText`: what a text names is one byte.
- **Reading.** `Arguments.Tidy`, the invariant: `take_tidy`, `takeAll_tidy`, `read_tidy`.
- **The check.** `check_eq_ok_iff`, and what it leaves: `ofList_tidy` and `ofList_topic`.
-/

namespace TopicReader

theorem Delimiter.length_of_ofText {text : String} {bytes : List UInt8} (h : ofText text = .ok bytes) :
    bytes.length = 1 := by
  unfold ofText at h
  split at h
  · by_cases hone : (Text.Utf8.encode text).length = 1
    · simp only [hone, if_true] at h
      cases h
      exact hone
    · simp only [hone, if_false] at h
      cases h
  · split at h
    · cases h
      rfl
    · cases h

namespace Arguments

/-! ## Reading -/

/-- **Tidy arguments**: the delimiters are single bytes, the one for records and the one for keys, and the partition and
    the count can be written out. -/
structure Tidy (a : Arguments) : Prop where
  record : a.delimiter.length = 1
  key : ∀ bytes, a.keyDelimiter = some bytes → bytes.length = 1
  partition : ∀ n, a.partition = some n → (Value.int n).holdsLong = false
  count : ∀ n, a.count = some n → (Value.int n).holdsLong = false

theorem usual_tidy : Tidy .usual where
  record := rfl
  key bytes h := by cases h
  partition n h := by cases h
  count n h := by cases h

/-- Arguments with the same delimiters and numbers are as tidy as each other. -/
theorem Tidy.congr {a b : Arguments} (h : Tidy a) (hrecord : b.delimiter = a.delimiter)
    (hkey : b.keyDelimiter = a.keyDelimiter) (hpartition : b.partition = a.partition) (hcount : b.count = a.count) :
    Tidy b where
  record := by rw [hrecord]; exact h.record
  key := by rw [hkey]; exact h.key
  partition := by rw [hpartition]; exact h.partition
  count := by rw [hcount]; exact h.count

theorem length_of_delimiterOf {f : Flag} {value : String} {bytes : List UInt8} (h : delimiterOf f value = .ok bytes) :
    bytes.length = 1 := by
  unfold delimiterOf at h
  split at h
  · rename_i bs hread
    cases h
    exact Delimiter.length_of_ofText hread
  · cases h

theorem short_of_integer {f : Flag} {value : String} {n : Int} (h : integer f value = .ok n) :
    (Value.int n).holdsLong = false := by
  unfold integer at h
  split at h
  · rename_i m hread
    cases h
    exact Whole.read_short hread
  · cases h

/-- One option keeps arguments tidy: those that touch delimiters read a delimiter, and those that touch numbers read an
    integer. -/
theorem take_tidy {a b : Arguments} {f : Flag} {value : String} (ha : Tidy a) (h : a.take f value = .ok b) :
    Tidy b := by
  have hread {g : Flag} {k : List UInt8 → Arguments} (hk : (delimiterOf g value).map k = .ok b) :
      ∃ bytes, bytes.length = 1 ∧ k bytes = b := by
    obtain ⟨bytes, hbytes, rfl⟩ := map_eq_ok_iff.mp hk
    exact ⟨bytes, length_of_delimiterOf hbytes, rfl⟩
  have hnumber {g : Flag} {k : Int → Arguments} (hk : (integer g value).map k = .ok b) :
      ∃ n, (Value.int n).holdsLong = false ∧ k n = b := by
    obtain ⟨n, hn, rfl⟩ := map_eq_ok_iff.mp hk
    exact ⟨n, short_of_integer hn, rfl⟩
  cases f with
  | delimiter =>
    obtain ⟨bytes, hone, rfl⟩ := hread h
    exact { ha with record := hone }
  | keyDelimiter =>
    obtain ⟨bytes, hone, rfl⟩ := hread h
    refine { ha with key := ?_ }
    intro other hother
    cases hother
    exact hone
  | partition =>
    obtain ⟨n, hshort, rfl⟩ := hnumber h
    refine { ha with partition := ?_ }
    intro other hother
    cases hother
    exact hshort
  | count =>
    obtain ⟨n, hshort, rfl⟩ := hnumber h
    refine { ha with count := ?_ }
    intro other hother
    cases hother
    exact hshort
  | help => cases h
  | _ =>
    cases h
    exact ha.congr rfl rfl rfl rfl

theorem takeAll_cons (a : Arguments) (t : Flag × String) (rest : List (Flag × String)) :
    a.takeAll (t :: rest) = a.take t.1 t.2 >>= fun b => b.takeAll rest := by
  unfold takeAll
  rw [List.foldlM_cons]

/-- The options of a word, one after the other. -/
theorem takeAll_tidy {a b : Arguments} {taken : List (Flag × String)} (ha : Tidy a)
    (h : a.takeAll taken = .ok b) : Tidy b := by
  induction taken generalizing a with
  | nil =>
    cases h
    exact ha
  | cons t rest ih =>
    rw [takeAll_cons] at h
    obtain ⟨c, hc, hrest⟩ := bind_eq_ok_iff.mp h
    exact ih (take_tidy ha hc) hrest

namespace Progress

variable {p q : Progress}

theorem options_tidy {taken : List (Flag × String)} (hp : Tidy p.arguments) (h : p.options taken = .ok q) :
    Tidy q.arguments := by
  unfold options at h
  obtain ⟨a, ha, rfl⟩ := map_eq_ok_iff.mp h
  exact takeAll_tidy hp ha

theorem plain_tidy (hp : Tidy p.arguments) (text : String) : Tidy (p.plain text).arguments := by
  unfold plain
  split
  · exact hp
  · exact hp.congr rfl rfl rfl rfl

theorem plains_tidy (hp : Tidy p.arguments) (words : List Word) : Tidy (p.plains words).arguments := by
  unfold plains
  induction words generalizing p with
  | nil => exact hp
  | cons w rest ih => exact ih (plain_tidy hp w.text)

end Progress

/-- **All words**: whatever is read, arguments stay tidy. -/
theorem read_tidy {p q : Progress} {words : List Word} (hp : Tidy p.arguments) (h : read p words = .ok q) :
    Tidy q.arguments := by
  -- The cases are those of `read` itself; a word that is left over changes no argument.
  induction p, words using read.induct with
  | case1 p =>
    cases h
    exact hp
  | case2 p t rest hplaced =>
    simp only [read, hplaced, if_true] at h
    cases h
    have hleft : Tidy ((p.leave t).leave "--").arguments := hp
    exact Progress.plains_tidy hleft rest
  | case3 p t rest hfree =>
    simp only [read, hfree] at h
    cases h
    exact Progress.plains_tidy (Progress.plain_tidy hp t) rest
  | case4 p t rest hmark ih =>
    rw [read] at h
    · exact ih (Progress.plain_tidy hp t) h
    · exact hmark
  | case5 p rest hplaced =>
    simp only [read, hplaced, if_true] at h
    cases h
    have hleft : Tidy (p.leave "--").arguments := hp
    exact Progress.plains_tidy hleft rest
  | case6 p rest hfree =>
    simp only [read, hfree] at h
    cases h
    exact Progress.plains_tidy hp rest
  | case7 p t rest ih =>
    rw [read] at h
    exact ih hp h
  | case8 p f name attached rest e hcluster =>
    simp only [read, hcluster] at h
    cases h
  | case9 p f name attached rest taken hcluster ih =>
    simp only [read, hcluster] at h
    obtain ⟨next, hnext, hrest⟩ := bind_eq_ok_iff.mp h
    exact ih next (Progress.options_tidy hp hnext) hrest
  | case10 p f name attached taken g hcluster v rest ih =>
    simp only [read, hcluster] at h
    obtain ⟨next, hnext, hrest⟩ := bind_eq_ok_iff.mp h
    exact ih next (Progress.options_tidy hp hnext) hrest
  | case11 p f name attached rest taken g hcluster hvalue =>
    simp only [read, hcluster] at h
    cases h

/-! ## The check -/

theorem check_eq_ok_iff {p : Progress} {a : Arguments} :
    check p = .ok a
      ↔ p.spare = [] ∧ (p.arguments.topic.getD "" ≠ "" ∨ p.arguments.hasCommand = true) ∧ p.arguments = a := by
  unfold check
  cases hspare : p.spare with
  | cons text rest => simp
  | nil =>
    by_cases htopic : p.arguments.topic.getD "" = ""
    · cases hcommand : p.arguments.hasCommand <;> simp [htopic]
    · simp [htopic]

/-- What an accepted command line was read to. -/
theorem ofList_eq_ok_iff {texts : List String} {a : Arguments} :
    ofList texts = .ok a
      ↔ ∃ words p, Word.ofTexts texts = .ok words ∧ read .start words = .ok p ∧ check p = .ok a := by
  unfold ofList ofWords
  cases Word.ofTexts texts with
  | error e => simp
  | ok words => simp [bind_eq_ok_iff]

/-- **Every accepted command line** comes to tidy arguments. -/
theorem ofList_tidy {texts : List String} {a : Arguments} (h : ofList texts = .ok a) : Tidy a := by
  obtain ⟨words, p, _, hread, hcheck⟩ := ofList_eq_ok_iff.mp h
  obtain ⟨_, _, rfl⟩ := check_eq_ok_iff.mp hcheck
  exact read_tidy usual_tidy hread

/-- **Every accepted command line** without a command names a topic. -/
theorem ofList_topic {texts : List String} {a : Arguments} (h : ofList texts = .ok a)
    (hcommand : a.hasCommand = false) : a.topic.getD "" ≠ "" := by
  obtain ⟨words, p, _, _, hcheck⟩ := ofList_eq_ok_iff.mp h
  obtain ⟨_, htopic | hasked, rfl⟩ := check_eq_ok_iff.mp hcheck
  · exact htopic
  · rw [hcommand] at hasked
    cases hasked

end Arguments

end TopicReader
