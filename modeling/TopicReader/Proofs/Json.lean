import TopicReader.Json
import TopicReader.Proofs.Decimals

/-!
# `Proofs.Json` — when a document on one line is JSON

The grammar of JSON is given here by itself, as a relation between a text, what is left behind the part of it that is
read, and what that part spells. A document is rendered as a text that spells it, and without a line break; but numbers
that are not finite are rendered as words that no JSON text has outside its strings. So the line is JSON exactly if all
numbers in the document are finite.

## Contents
- **The grammar.** `Json.Tree`, `Json.IsBody` for the inside of a string, and `Json.Spells`.
- **Rendering.** `Json.tree` and `Json.render_spells`.
- **Words outside of strings.** `Json.wordless`, and `Json.isJson_render_iff`.
- **One line.** `Json.isPrintable_render`.
-/

namespace TopicReader

open TopicReader.Text

namespace Json

/-! ## The grammar -/

/-- A document as the grammar sees it: numbers, strings and names as they are written. -/
inductive Tree where
  | null
  | bool (b : Bool)
  | number (digits : List Char)
  | text (body : List Char)
  | array (items : List Tree)
  | object (members : List (List Char × Tree))

/-- Nothing but blanks, of the kinds that may stand between the parts of a document. -/
def Blank (cs : List Char) : Prop := ∀ c ∈ cs, c ∈ [' ', '\t', '\n', '\r']

/-- The characters that may stand behind a backslash, the one for a code aside. -/
def escapes : List Char := [doubleQuote, backslash, '/', 'b', 'f', 'n', 'r', 't']

/-- **The inside of a string**: characters as they are, escapes, and codes of four digits. -/
inductive IsBody : List Char → Prop where
  | nil : IsBody []
  | char {c : Char} {cs : List Char} (printable : 0x20 ≤ c.toNat) (open_ : c ≠ doubleQuote) (plain : c ≠ backslash)
      (more : IsBody cs) : IsBody (c :: cs)
  | escape {c : Char} {cs : List Char} (known : c ∈ escapes) (more : IsBody cs) : IsBody (backslash :: c :: cs)
  | code {ds cs : List Char} (four : ds.length = 4) (digits : ∀ d ∈ ds, isHexDigit d = true) (more : IsBody cs) :
      IsBody (backslash :: 'u' :: (ds ++ cs))

/-- What a part of a text may spell: a document, the items of an array, a member of an object, or its members. -/
inductive Part where
  | document (t : Tree)
  | items (ts : List Tree)
  | member (m : List Char × Tree)
  | members (ms : List (List Char × Tree))

/-- **The grammar of JSON.** A text spells a part in front, and the rest is left. -/
inductive Spells : Part → List Char → List Char → Prop where
  | null {rest : List Char} : Spells (.document .null) ('n' :: 'u' :: 'l' :: 'l' :: rest) rest
  | true {rest : List Char} : Spells (.document (.bool true)) ('t' :: 'r' :: 'u' :: 'e' :: rest) rest
  | false {rest : List Char} : Spells (.document (.bool false)) ('f' :: 'a' :: 'l' :: 's' :: 'e' :: rest) rest
  | number {digits rest : List Char} (isNumber : IsNumber digits) :
      Spells (.document (.number digits)) (digits ++ rest) rest
  | text {body rest : List Char} (isBody : IsBody body) :
      Spells (.document (.text body)) (doubleQuote :: (body ++ doubleQuote :: rest)) rest
  | array {ts : List Tree} {cs rest : List Char} (items : Spells (.items ts) cs (']' :: rest)) :
      Spells (.document (.array ts)) ('[' :: cs) rest
  | object {ms : List (List Char × Tree)} {cs rest : List Char} (members : Spells (.members ms) cs ('\x7d' :: rest)) :
      Spells (.document (.object ms)) ('\x7b' :: cs) rest
  | padded {t : Tree} {before after cs rest : List Char} (front : Blank before) (back : Blank after)
      (document : Spells (.document t) cs (after ++ rest)) : Spells (.document t) (before ++ cs) rest
  | noItems {blanks rest : List Char} (blank : Blank blanks) : Spells (.items []) (blanks ++ rest) rest
  | lastItem {t : Tree} {cs rest : List Char} (item : Spells (.document t) cs rest) : Spells (.items [t]) cs rest
  | nextItem {t u : Tree} {ts : List Tree} {cs ds rest : List Char} (item : Spells (.document t) cs (',' :: ds))
      (more : Spells (.items (u :: ts)) ds rest) : Spells (.items (t :: u :: ts)) cs rest
  | member {name before after cs rest : List Char} {t : Tree} (front : Blank before) (back : Blank after)
      (isBody : IsBody name) (document : Spells (.document t) cs rest) :
      Spells (.member (name, t)) (before ++ doubleQuote :: (name ++ doubleQuote :: (after ++ ':' :: cs))) rest
  | noMembers {blanks rest : List Char} (blank : Blank blanks) : Spells (.members []) (blanks ++ rest) rest
  | lastMember {m : List Char × Tree} {cs rest : List Char} (member : Spells (.member m) cs rest) :
      Spells (.members [m]) cs rest
  | nextMember {m n : List Char × Tree} {ms : List (List Char × Tree)} {cs ds rest : List Char}
      (member : Spells (.member m) cs (',' :: ds)) (more : Spells (.members (n :: ms)) ds rest) :
      Spells (.members (m :: n :: ms)) cs rest

/-- **A text is JSON** if it spells a document and nothing is left. -/
def IsJson (t : Tree) (cs : List Char) : Prop := Spells (.document t) cs []

/-! ## Rendering -/

/-- The inside of a string for a text. -/
def bodyOf (s : String) : List Char := s.toList.flatMap escapeChar

mutual

/-- What a document is written as. -/
def tree (j : Json) : Tree :=
  match j with
  | .null => .null
  | .bool b => .bool b
  | .int n => .number (intText n).toList
  | .float x => .number (renderFloat x).toList
  | .text s => .text (bodyOf s)
  | .array items => .array (treeAll items)
  | .object members => .object (treeMembers members)

/-- What the items of an array are written as. -/
def treeAll (items : List Json) : List Tree :=
  match items with
  | [] => []
  | j :: rest => tree j :: treeAll rest

/-- What the members of an object are written as. -/
def treeMembers (members : List (String × Json)) : List (List Char × Tree) :=
  match members with
  | [] => []
  | (name, j) :: rest => (bodyOf name, tree j) :: treeMembers rest

end

mutual

/-- Are all numbers of a document finite? -/
def isFinite (j : Json) : Bool :=
  match j with
  | .null | .bool _ | .int _ | .text _ => true
  | .float x => x.isFinite
  | .array items => isFiniteAll items
  | .object members => isFiniteMembers members

/-- Are those of all items? -/
def isFiniteAll (items : List Json) : Bool :=
  match items with
  | [] => true
  | j :: rest => isFinite j && isFiniteAll rest

/-- Are those of all members? -/
def isFiniteMembers (members : List (String × Json)) : Bool :=
  match members with
  | [] => true
  | (_, j) :: rest => isFinite j && isFiniteMembers rest

end

theorem isFiniteAll_eq_all (js : List Json) : isFiniteAll js = js.all isFinite := by
  induction js with
  | nil => rw [isFiniteAll, List.all_nil]
  | cons j rest ih => rw [isFiniteAll, List.all_cons, ih]

theorem isFiniteMembers_eq_all (ms : List (String × Json)) : isFiniteMembers ms = ms.all fun m => m.2.isFinite := by
  induction ms with
  | nil => rw [isFiniteMembers, List.all_nil]
  | cons m rest ih => rw [isFiniteMembers, List.all_cons, ih]

theorem isFiniteMembers_append (ms ns : List (String × Json)) :
    isFiniteMembers (ms ++ ns) = (isFiniteMembers ms && isFiniteMembers ns) := by
  rw [isFiniteMembers_eq_all, isFiniteMembers_eq_all, isFiniteMembers_eq_all, List.all_append]

theorem mem_treeMembers_iff {ms : List (String × Json)} {m : List Char × Tree} :
    m ∈ treeMembers ms ↔ ∃ name j, (name, j) ∈ ms ∧ m = (bodyOf name, j.tree) := by
  induction ms with
  | nil =>
    rw [treeMembers]
    exact iff_of_false List.not_mem_nil fun ⟨_, _, h, _⟩ => List.not_mem_nil h
  | cons n rest ih =>
    obtain ⟨name, j⟩ := n
    rw [treeMembers, List.mem_cons, ih]
    constructor
    · rintro (rfl | ⟨other, k, hk, rfl⟩)
      · exact ⟨name, j, List.mem_cons_self, rfl⟩
      · exact ⟨other, k, List.mem_cons_of_mem _ hk, rfl⟩
    · rintro ⟨other, k, hk, rfl⟩
      rcases List.mem_cons.mp hk with heq | hk
      · cases heq
        exact .inl rfl
      · exact .inr ⟨other, k, hk, rfl⟩

theorem isHexDigit_hexDigit : ∀ n < 16, isHexDigit (hexDigit n) = true := by decide

theorem hexPadded_digits (width n : Nat) : ∀ d ∈ hexPadded width n, isHexDigit d = true := by
  induction width generalizing n with
  | zero => exact List.forall_mem_nil _
  | succ width ih =>
    refine List.forall_mem_append.mpr ⟨ih (n / 16), List.forall_mem_singleton.mpr ?_⟩
    exact isHexDigit_hexDigit _ (Nat.mod_lt _ (by decide))

theorem length_hexPadded (width n : Nat) : (hexPadded width n).length = width := by
  induction width generalizing n with
  | zero => rfl
  | succ width ih =>
    unfold hexPadded
    rw [List.length_append, ih]
    rfl

/-- Every character is written so that it can stand in a string. -/
theorem IsBody.escapeChar {cs : List Char} (h : IsBody cs) (c : Char) : IsBody (escapeChar c ++ cs) := by
  unfold Json.escapeChar
  by_cases hquote : c = doubleQuote
  · rw [if_pos hquote]
    exact .escape (by decide) h
  rw [if_neg hquote]
  by_cases hslash : c = backslash
  · rw [if_pos hslash]
    exact .escape (by decide) h
  rw [if_neg hslash]
  split
  · exact .escape (by decide) h
  split
  · exact .escape (by decide) h
  split
  · exact .escape (by decide) h
  split
  · exact .escape (by decide) h
  split
  · exact .escape (by decide) h
  split
  · exact .code (length_hexPadded 4 _) (hexPadded_digits 4 _) h
  · rename_i hprintable
    exact .char (Nat.le_of_not_lt hprintable) hquote hslash h

theorem isBody_bodyOf (s : String) : IsBody (bodyOf s) := by
  unfold bodyOf
  induction s.toList with
  | nil => exact .nil
  | cons c rest ih =>
    rw [List.flatMap_cons]
    exact ih.escapeChar c

theorem renderText_toList (s : String) : (renderText s).toList = doubleQuote :: (bodyOf s ++ [doubleQuote]) := by
  rw [renderText, String.toList_ofList]
  rfl

theorem renderMember_toList (name : String) (j : Json) (rest : List Char) :
    (renderText name ++ ": " ++ j.render).toList ++ rest
      = doubleQuote :: (bodyOf name ++ doubleQuote :: ':' :: ' ' :: (j.render.toList ++ rest)) := by
  rw [String.toList_append, String.toList_append, renderText_toList]
  simp only [List.cons_append, List.append_assoc, List.nil_append]
  rfl

/-- No mark is shown. -/
theorem renderFloat_nan (mark : Nat) : renderFloat (.nan mark) = "NaN" := rfl

theorem isNumber_renderFloat {x : Double} (h : x.isFinite = true) : IsNumber (renderFloat x).toList := by
  cases x with
  | nan => cases h
  | infinite negative => cases h
  | finite negative m e => exact Double.isNumber_text rfl

theorem blank_nil : Blank [] := List.forall_mem_nil _

theorem blank_space : Blank [' '] := by
  intro c hc
  rw [List.mem_singleton.mp hc]
  exact List.mem_cons_self

/-- A blank in front of some items belongs to the first one. -/
theorem Spells.items_pad {ts : List Tree} {cs rest : List Char} (h : Spells (.items ts) cs rest) :
    Spells (.items ts) (' ' :: cs) rest := by
  cases h with
  | noItems blank => exact .noItems (List.forall_mem_cons.mpr ⟨by decide, blank⟩)
  | lastItem item => exact .lastItem (.padded blank_space blank_nil item)
  | nextItem item more => exact .nextItem (.padded blank_space blank_nil item) more

theorem Spells.member_pad {m : List Char × Tree} {cs rest : List Char} (h : Spells (.member m) cs rest) :
    Spells (.member m) (' ' :: cs) rest := by
  cases h with
  | member front back isBody document =>
    exact .member (List.forall_mem_cons.mpr ⟨by decide, front⟩) back isBody document

theorem Spells.members_pad {ms : List (List Char × Tree)} {cs rest : List Char} (h : Spells (.members ms) cs rest) :
    Spells (.members ms) (' ' :: cs) rest := by
  cases h with
  | noMembers blank => exact .noMembers (List.forall_mem_cons.mpr ⟨by decide, blank⟩)
  | lastMember member => exact .lastMember member.member_pad
  | nextMember member more => exact .nextMember member.member_pad more

theorem commaJoin_cons_cons (s t : String) (more : List String) (rest : List Char) :
    (commaJoin (s :: t :: more)).toList ++ rest
      = s.toList ++ ',' :: ' ' :: ((commaJoin (t :: more)).toList ++ rest) := by
  rw [commaJoin, String.toList_append, String.toList_append, List.append_assoc, List.append_assoc]
  · rfl
  · simp

-- By recursion along the document, for any rest behind it: what follows an item is the rest for that item.
mutual

/-- **A document is rendered as a text that spells it**, if its numbers are finite. -/
theorem render_spells {j : Json} (h : j.isFinite = true) (rest : List Char) :
    Spells (.document j.tree) (j.render.toList ++ rest) rest := by
  cases j with
  | null =>
    rw [tree, render]
    exact .null
  | bool b =>
    rw [tree, render]
    cases b with
    | true => exact .true
    | false => exact .false
  | int n =>
    rw [tree, render]
    exact .number (isNumber_intText n)
  | float x =>
    rw [isFinite] at h
    rw [tree, render]
    exact .number (isNumber_renderFloat h)
  | text s =>
    rw [tree, render, renderText_toList, List.cons_append, List.append_assoc]
    exact .text (isBody_bodyOf s)
  | array items =>
    rw [isFinite] at h
    rw [tree, render, String.toList_append, String.toList_append, List.append_assoc, List.append_assoc]
    exact .array (renderAll_spells h (']' :: rest))
  | object members =>
    rw [isFinite] at h
    rw [tree, render, String.toList_append, String.toList_append, List.append_assoc, List.append_assoc]
    exact .object (renderMembers_spells h ('\x7d' :: rest))

theorem renderAll_spells {items : List Json} (h : isFiniteAll items = true) (rest : List Char) :
    Spells (.items (treeAll items)) ((commaJoin (renderAll items)).toList ++ rest) rest := by
  cases items with
  | nil =>
    rw [treeAll, renderAll]
    exact .noItems blank_nil
  | cons j more =>
    rw [isFiniteAll, Bool.and_eq_true] at h
    cases more with
    | nil =>
      rw [treeAll, treeAll, renderAll, renderAll]
      exact .lastItem (render_spells h.1 rest)
    | cons k others =>
      have hmore := renderAll_spells h.2 rest
      have hfirst := render_spells h.1 (',' :: ' ' :: ((commaJoin (renderAll (k :: others))).toList ++ rest))
      rw [treeAll, renderAll]
      rw [treeAll, renderAll] at hmore
      rw [renderAll] at hfirst
      rw [treeAll, renderAll, commaJoin_cons_cons]
      exact .nextItem hfirst hmore.items_pad

theorem renderMembers_spells {members : List (String × Json)} (h : isFiniteMembers members = true) (rest : List Char) :
    Spells (.members (treeMembers members)) ((commaJoin (renderMembers members)).toList ++ rest) rest := by
  cases members with
  | nil =>
    rw [treeMembers, renderMembers]
    exact .noMembers blank_nil
  | cons m more =>
    obtain ⟨name, j⟩ := m
    rw [isFiniteMembers, Bool.and_eq_true] at h
    have hmember (after : List Char) :
        Spells (.member (bodyOf name, j.tree)) ((renderText name ++ ": " ++ j.render).toList ++ after) after := by
      have hdocument : Spells (.document j.tree) ([' '] ++ (j.render.toList ++ after)) after :=
        .padded blank_space blank_nil (render_spells h.1 after)
      rw [renderMember_toList]
      exact .member blank_nil blank_nil (isBody_bodyOf name) hdocument
    cases more with
    | nil =>
      rw [treeMembers, treeMembers, renderMembers, renderMembers]
      exact .lastMember (hmember rest)
    | cons n others =>
      obtain ⟨other, k⟩ := n
      have hmore := renderMembers_spells h.2 rest
      have hfirst := hmember (',' :: ' ' :: ((commaJoin (renderMembers ((other, k) :: others))).toList ++ rest))
      rw [treeMembers, renderMembers]
      rw [treeMembers, renderMembers] at hmore
      rw [renderMembers] at hfirst
      rw [treeMembers, renderMembers, commaJoin_cons_cons]
      exact .nextMember hfirst hmore.members_pad

end

/-! ## Words outside of strings -/

/-- Where a character stands: outside of strings, in one, or behind a backslash in one. -/
inductive Place where
  | outside
  | inside
  | escaped

/-- Are the letters that start the words for numbers that are not finite absent outside of strings? -/
def wordless : Place → List Char → Bool
  | _, [] => true
  | .outside, c :: rest =>
    if c = doubleQuote then wordless .inside rest else c != 'N' && c != 'I' && wordless .outside rest
  | .inside, c :: rest =>
    if c = doubleQuote then wordless .outside rest
    else if c = backslash then wordless .escaped rest
    else wordless .inside rest
  | .escaped, _ :: rest => wordless .inside rest

/-- A character that neither starts such a word nor opens a string. -/
def IsTame (c : Char) : Prop := c ≠ doubleQuote ∧ c ≠ 'N' ∧ c ≠ 'I'

instance (c : Char) : Decidable (IsTame c) := inferInstanceAs (Decidable (c ≠ doubleQuote ∧ c ≠ 'N' ∧ c ≠ 'I'))

theorem wordless_cons {c : Char} (h : IsTame c) (rest : List Char) :
    wordless .outside (c :: rest) = wordless .outside rest := by
  rw [wordless, if_neg h.1, bne_iff_ne.mpr h.2.1, bne_iff_ne.mpr h.2.2, Bool.true_and, Bool.true_and]

theorem wordless_append {cs : List Char} (h : ∀ c ∈ cs, IsTame c) (rest : List Char) :
    wordless .outside (cs ++ rest) = wordless .outside rest := by
  induction cs with
  | nil => rfl
  | cons c cs ih =>
    obtain ⟨hc, hcs⟩ := List.forall_mem_cons.mp h
    rw [List.cons_append, wordless_cons hc, ih hcs]

theorem isTame_of_isDigit {c : Char} (h : c.isDigit = true) : IsTame c := by
  refine ⟨?_, ?_, ?_⟩
  · rintro rfl
    cases h
  · rintro rfl
    cases h
  · rintro rfl
    cases h

theorem isTame_of_isNumberChar {c : Char} (h : IsNumberChar c) : IsTame c := by
  rcases h with hdigit | hmark
  · exact isTame_of_isDigit hdigit
  · have hall : ∀ d ∈ ['-', '+', '.', 'e', 'E'], IsTame d := forall_mem_of_all (by decide)
    exact hall c hmark

theorem isTame_of_blank {cs : List Char} (h : Blank cs) : ∀ c ∈ cs, IsTame c := by
  intro c hc
  have hall : ∀ d ∈ [' ', '\t', '\n', '\r'], IsTame d := forall_mem_of_all (by decide)
  exact hall c (h c hc)

/-- The digits of a code stay inside of the string. -/
theorem wordless_hexDigits {ds : List Char} (h : ∀ d ∈ ds, isHexDigit d = true) (rest : List Char) :
    wordless .inside (ds ++ rest) = wordless .inside rest := by
  induction ds with
  | nil => rfl
  | cons d ds ih =>
    obtain ⟨hd, hds⟩ := List.forall_mem_cons.mp h
    have hopen : d ≠ doubleQuote := by
      rintro rfl
      cases hd
    have hplain : d ≠ backslash := by
      rintro rfl
      cases hd
    rw [List.cons_append, wordless, if_neg hopen, if_neg hplain, ih hds]

/-- A string is over where its inside is. -/
theorem IsBody.wordless {body : List Char} (h : IsBody body) (rest : List Char) :
    wordless .inside (body ++ doubleQuote :: rest) = wordless .outside rest := by
  have hslash : backslash ≠ doubleQuote := by decide
  induction h with
  | nil =>
    rw [List.nil_append, Json.wordless, if_pos rfl]
  | char printable open_ plain more ih =>
    rw [List.cons_append, Json.wordless, if_neg open_, if_neg plain]
    exact ih
  | escape known more ih =>
    rw [List.cons_append, List.cons_append, Json.wordless, if_neg hslash, if_pos rfl, Json.wordless]
    exact ih
  | @code ds cs four digits more ih =>
    rw [List.cons_append, List.cons_append, List.append_assoc, Json.wordless, if_neg hslash, if_pos rfl, Json.wordless]
    rw [wordless_hexDigits digits, ih]

/-- **JSON has none of these words** outside of strings. -/
theorem Spells.wordless {p : Part} {cs rest : List Char} (h : Spells p cs rest) :
    wordless .outside cs = wordless .outside rest := by
  induction h with
  | null => exact wordless_append (show ∀ c ∈ ['n', 'u', 'l', 'l'], IsTame c from forall_mem_of_all (by decide)) _
  | true => exact wordless_append (show ∀ c ∈ ['t', 'r', 'u', 'e'], IsTame c from forall_mem_of_all (by decide)) _
  | false => exact wordless_append (show ∀ c ∈ ['f', 'a', 'l', 's', 'e'], IsTame c from forall_mem_of_all (by decide)) _
  | number isNumber => exact wordless_append (fun c hc => isTame_of_isNumberChar (isNumber.isNumberChar c hc)) _
  | text isBody => rw [Json.wordless, if_pos rfl, isBody.wordless]
  | array items ih => rw [wordless_cons (by decide), ih, wordless_cons (by decide)]
  | object members ih => rw [wordless_cons (by decide), ih, wordless_cons (by decide)]
  | padded front back document ih =>
    rw [wordless_append (isTame_of_blank front), ih, wordless_append (isTame_of_blank back)]
  | noItems blank => exact wordless_append (isTame_of_blank blank) _
  | lastItem item ih => exact ih
  | nextItem item more ih ihmore => rw [ih, wordless_cons (by decide), ihmore]
  | member front back isBody document ih =>
    rw [wordless_append (isTame_of_blank front), Json.wordless, if_pos rfl, isBody.wordless,
      wordless_append (isTame_of_blank back), wordless_cons (by decide), ih]
  | noMembers blank => exact wordless_append (isTame_of_blank blank) _
  | lastMember member ih => exact ih
  | nextMember member more ih ihmore => rw [ih, wordless_cons (by decide), ihmore]

theorem wordless_renderText (s : String) (rest : List Char) :
    wordless .outside ((renderText s).toList ++ rest) = wordless .outside rest := by
  rw [renderText_toList, List.cons_append, List.append_assoc, wordless, if_pos rfl]
  exact (isBody_bodyOf s).wordless rest

theorem wordless_renderFloat (x : Double) (rest : List Char) :
    wordless .outside ((renderFloat x).toList ++ rest) = (x.isFinite && wordless .outside rest) := by
  cases x with
  | nan mark =>
    rw [renderFloat_nan]
    rfl
  | infinite negative => cases negative <;> rfl
  | finite negative m e =>
    have hnumber : IsNumber (renderFloat (.finite negative m e)).toList := isNumber_renderFloat rfl
    rw [wordless_append fun c hc => isTame_of_isNumberChar (hnumber.isNumberChar c hc)]
    rfl

mutual

/-- **A document is rendered without these words** exactly if its numbers are finite. -/
theorem wordless_render (j : Json) (rest : List Char) :
    wordless .outside (j.render.toList ++ rest) = (j.isFinite && wordless .outside rest) := by
  cases j with
  | null =>
    rw [render, isFinite]
    exact wordless_append (forall_mem_of_all (by decide)) rest
  | bool b =>
    rw [render, isFinite]
    refine wordless_append (forall_mem_of_all ?_) rest
    cases b <;> decide
  | int n =>
    rw [render, isFinite]
    exact wordless_append (fun c hc => isTame_of_isNumberChar ((isNumber_intText n).isNumberChar c hc)) rest
  | float x =>
    rw [render, isFinite]
    exact wordless_renderFloat x rest
  | text s =>
    rw [render, isFinite]
    exact wordless_renderText s rest
  | array items =>
    rw [render, isFinite, String.toList_append, String.toList_append, List.append_assoc, List.append_assoc]
    have hitems := wordless_renderAll items (']' :: rest)
    rw [wordless_cons (by decide)] at hitems
    exact (wordless_cons (by decide) _).trans hitems
  | object members =>
    rw [render, isFinite, String.toList_append, String.toList_append, List.append_assoc, List.append_assoc]
    have hmembers := wordless_renderMembers members ('\x7d' :: rest)
    rw [wordless_cons (by decide)] at hmembers
    exact (wordless_cons (by decide) _).trans hmembers

theorem wordless_renderAll (items : List Json) (rest : List Char) :
    wordless .outside ((commaJoin (renderAll items)).toList ++ rest)
      = (isFiniteAll items && wordless .outside rest) := by
  cases items with
  | nil =>
    rw [renderAll, isFiniteAll]
    rfl
  | cons j more =>
    cases more with
    | nil =>
      rw [renderAll, renderAll, isFiniteAll, isFiniteAll, Bool.and_true]
      exact wordless_render j rest
    | cons k others =>
      have hmore := wordless_renderAll (k :: others) rest
      rw [renderAll] at hmore
      have hall : isFiniteAll (j :: k :: others) = (j.isFinite && isFiniteAll (k :: others)) := by rw [isFiniteAll]
      rw [renderAll, renderAll, commaJoin_cons_cons, wordless_render, wordless_cons (by decide),
        wordless_cons (by decide), hmore, hall, Bool.and_assoc]

theorem wordless_renderMembers (members : List (String × Json)) (rest : List Char) :
    wordless .outside ((commaJoin (renderMembers members)).toList ++ rest)
      = (isFiniteMembers members && wordless .outside rest) := by
  cases members with
  | nil =>
    rw [renderMembers, isFiniteMembers]
    rfl
  | cons m more =>
    obtain ⟨name, j⟩ := m
    have hmember (after : List Char) : wordless .outside ((renderText name ++ ": " ++ j.render).toList ++ after)
        = (j.isFinite && wordless .outside after) := by
      rw [renderMember_toList, wordless, if_pos rfl, (isBody_bodyOf name).wordless, wordless_cons (by decide),
        wordless_cons (by decide), wordless_render]
    cases more with
    | nil =>
      rw [renderMembers, renderMembers, isFiniteMembers, isFiniteMembers, Bool.and_true]
      exact hmember rest
    | cons n others =>
      obtain ⟨other, k⟩ := n
      have hmore := wordless_renderMembers ((other, k) :: others) rest
      rw [renderMembers] at hmore
      have hall : isFiniteMembers ((name, j) :: (other, k) :: others)
          = (j.isFinite && isFiniteMembers ((other, k) :: others)) := by rw [isFiniteMembers]
      rw [renderMembers, renderMembers, commaJoin_cons_cons, hmember, wordless_cons (by decide),
        wordless_cons (by decide), hmore, hall, Bool.and_assoc]

end

/-- **A rendered document is JSON** exactly if its numbers are finite. -/
theorem isJson_render_iff (j : Json) : (∃ t, IsJson t j.render.toList) ↔ j.isFinite = true := by
  constructor
  · rintro ⟨t, ht⟩
    -- A text that is JSON has none of the words, and a number that is not finite would have left one.
    have hrender := wordless_render j []
    rw [List.append_nil, ht.wordless] at hrender
    exact (Bool.and_true j.isFinite).symm.trans hrender.symm
  · intro h
    have hspells := render_spells h []
    rw [List.append_nil] at hspells
    exact ⟨j.tree, hspells⟩

/-! ## One line -/

/-- A character that is no control. -/
def IsPrintable (c : Char) : Prop := 0x20 ≤ c.toNat

instance (c : Char) : Decidable (IsPrintable c) := inferInstanceAs (Decidable (0x20 ≤ c.toNat))

theorem isPrintable_of_isDigit {c : Char} (h : c.isDigit = true) : IsPrintable c := by
  have hbounds : 48 ≤ c.toNat ∧ c.toNat ≤ 57 := by simpa [Char.isDigit, UInt32.le_iff_toNat_le] using h
  unfold IsPrintable
  omega

theorem isPrintable_of_isNumber {cs : List Char} (h : IsNumber cs) : ∀ c ∈ cs, IsPrintable c := by
  intro c hc
  rcases h.isNumberChar c hc with hdigit | hmark
  · exact isPrintable_of_isDigit hdigit
  · have hall : ∀ d ∈ ['-', '+', '.', 'e', 'E'], IsPrintable d := forall_mem_of_all (by decide)
    exact hall c hmark

theorem isPrintable_of_isHexDigit {c : Char} (h : isHexDigit c = true) : IsPrintable c := by
  unfold isHexDigit isAsciiDigit at h
  simp only [Bool.or_eq_true, Bool.and_eq_true, decide_eq_true_eq] at h
  unfold IsPrintable
  rcases h with (hdigit | hsmall) | hcapital
  · have hlow : 48 ≤ c.toNat := UInt32.le_iff_toNat_le.mp hdigit.1
    omega
  · have hlow : 97 ≤ c.toNat := UInt32.le_iff_toNat_le.mp hsmall.1
    omega
  · have hlow : 65 ≤ c.toNat := UInt32.le_iff_toNat_le.mp hcapital.1
    omega

/-- The inside of a string has no controls: they are written as escapes. -/
theorem IsBody.isPrintable {cs : List Char} (h : IsBody cs) : ∀ c ∈ cs, IsPrintable c := by
  have hslash : IsPrintable backslash := by decide
  induction h with
  | nil => exact List.forall_mem_nil _
  | char printable open_ plain more ih => exact List.forall_mem_cons.mpr ⟨printable, ih⟩
  | escape known more ih =>
    have hall : ∀ d ∈ escapes, IsPrintable d := forall_mem_of_all (by decide)
    exact List.forall_mem_cons.mpr ⟨hslash, List.forall_mem_cons.mpr ⟨hall _ known, ih⟩⟩
  | code four digits more ih =>
    exact List.forall_mem_cons.mpr ⟨hslash, List.forall_mem_cons.mpr ⟨by decide,
      List.forall_mem_append.mpr ⟨fun d hd => isPrintable_of_isHexDigit (digits d hd), ih⟩⟩⟩

theorem isPrintable_renderText (s : String) : ∀ c ∈ (renderText s).toList, IsPrintable c := by
  have hquote : IsPrintable doubleQuote := by decide
  rw [renderText_toList]
  exact List.forall_mem_cons.mpr ⟨hquote,
    List.forall_mem_append.mpr ⟨(isBody_bodyOf s).isPrintable, List.forall_mem_singleton.mpr hquote⟩⟩

theorem isPrintable_renderFloat (x : Double) : ∀ c ∈ (renderFloat x).toList, IsPrintable c := by
  cases x with
  | nan mark =>
    rw [renderFloat_nan]
    exact forall_mem_of_all (by decide)
  | infinite negative => cases negative <;> exact forall_mem_of_all (by decide)
  | finite negative m e => exact isPrintable_of_isNumber (isNumber_renderFloat rfl)

theorem isPrintable_commaJoin {parts : List String} (h : ∀ s ∈ parts, ∀ c ∈ s.toList, IsPrintable c) :
    ∀ c ∈ (commaJoin parts).toList, IsPrintable c := by
  induction parts with
  | nil => exact List.forall_mem_nil _
  | cons s rest ih =>
    obtain ⟨hs, hrest⟩ := List.forall_mem_cons.mp h
    cases rest with
    | nil => exact hs
    | cons t more =>
      have hjoin := commaJoin_cons_cons s t more []
      rw [List.append_nil, List.append_nil] at hjoin
      rw [hjoin]
      exact List.forall_mem_append.mpr ⟨hs, List.forall_mem_cons.mpr ⟨by decide,
        List.forall_mem_cons.mpr ⟨by decide, ih hrest⟩⟩⟩

mutual

/-- **A document is rendered on one line**, without any control. -/
theorem isPrintable_render (j : Json) : ∀ c ∈ j.render.toList, IsPrintable c := by
  cases j with
  | null =>
    rw [render]
    exact forall_mem_of_all (by decide)
  | bool b =>
    rw [render]
    cases b <;> exact forall_mem_of_all (by decide)
  | int n =>
    rw [render]
    exact isPrintable_of_isNumber (isNumber_intText n)
  | float x =>
    rw [render]
    exact isPrintable_renderFloat x
  | text s =>
    rw [render]
    exact isPrintable_renderText s
  | array items =>
    rw [render, String.toList_append, String.toList_append]
    exact List.forall_mem_append.mpr ⟨List.forall_mem_append.mpr
      ⟨forall_mem_of_all (by decide), isPrintable_commaJoin (isPrintable_renderAll items)⟩,
      forall_mem_of_all (by decide)⟩
  | object members =>
    rw [render, String.toList_append, String.toList_append]
    exact List.forall_mem_append.mpr ⟨List.forall_mem_append.mpr
      ⟨forall_mem_of_all (by decide), isPrintable_commaJoin (isPrintable_renderMembers members)⟩,
      forall_mem_of_all (by decide)⟩

theorem isPrintable_renderAll (items : List Json) : ∀ s ∈ renderAll items, ∀ c ∈ s.toList, IsPrintable c := by
  cases items with
  | nil =>
    rw [renderAll]
    exact List.forall_mem_nil _
  | cons j rest =>
    rw [renderAll]
    exact List.forall_mem_cons.mpr ⟨isPrintable_render j, isPrintable_renderAll rest⟩

theorem isPrintable_renderMembers (members : List (String × Json)) :
    ∀ s ∈ renderMembers members, ∀ c ∈ s.toList, IsPrintable c := by
  cases members with
  | nil =>
    rw [renderMembers]
    exact List.forall_mem_nil _
  | cons m rest =>
    obtain ⟨name, j⟩ := m
    rw [renderMembers]
    refine List.forall_mem_cons.mpr ⟨?_, isPrintable_renderMembers rest⟩
    rw [String.toList_append, String.toList_append]
    exact List.forall_mem_append.mpr ⟨List.forall_mem_append.mpr
      ⟨isPrintable_renderText name, forall_mem_of_all (by decide)⟩, isPrintable_render j⟩

end

end Json

end TopicReader
