import Mathlib.Data.List.Infix
import Mathlib.Data.List.TakeWhile
import TopicReader.Environment

/-!
# `Proofs.Expansion` — references are replaced once, and nothing else is

The reader of references looks for one at every character and goes on behind the one it found. A template says the
same without looking: it is a row of literals and references, and what comes of it is the row of the literals
themselves and of what the references stand for. What a variable holds is never looked at, so a reference in it stays.
In a value every text is a template of its own: at every place of the value there is what was there before, with the
text expanded if it is one.

## Contents
- **Templates.** `Piece`, with its `text` and what it is `filled` with; `Template`.
- **Reading a template.** `expandChars_literal` and `expandChars_reference`, for one piece each; `expandChars_template`.
- **Places of a value.** `Value.part?` and `Value.node`; `Value.eq_of_nodes_eq`: the nodes make the value.
- **The law.** `Value.expand_replaces_once`.

Texts are rows of Unicode scalar values, so that every name of a variable can be looked up; half of a surrogate pair is
left out. A value may be nested to any depth, whatever the stack of a program that walks it.
-/

namespace TopicReader

/-! ## Templates -/

/-- **A piece of a template**: a text that refers to nothing, or a reference to a variable, without a default or with
    one. -/
inductive Piece where
  | literal (cs : List Char)
  | plain (name : List Char)
  | withDefault (name fallback : List Char)

namespace Piece

/-- How a piece is written. -/
def text : Piece → List Char
  | .literal cs => cs
  | .plain name => ['$', '\x7b'] ++ name ++ ['\x7d']
  | .withDefault name fallback => ['$', '\x7b'] ++ name ++ [':', '-'] ++ fallback ++ ['\x7d']

/-- What stands in the place of a piece: for a reference the variable as it is, else the default as it is, else the
    reference. -/
def filled (env : Environment) : Piece → List Char
  | .literal cs => cs
  | .plain name =>
    match env.get? (String.ofList name) with
    | some v => v.toList
    | none => text (.plain name)
  | .withDefault name fallback =>
    match env.get? (String.ofList name) with
    | some v => v.toList
    | none => fallback

/-- A name that a reference can have. -/
def ProperName (name : List Char) : Prop := name ≠ [] ∧ '\x7d' ∉ name ∧ ':' ∉ name

/-- A literal opens no reference; a name is one, and a default is closed behind it. -/
def Proper : Piece → Prop
  | .literal cs => ¬ ['$', '\x7b'] <:+: cs
  | .plain name => ProperName name
  | .withDefault name fallback => ProperName name ∧ '\x7d' ∉ fallback

/-- Is it a literal? -/
def IsLiteral : Piece → Prop
  | .literal _ => True
  | _ => False

end Piece

/-- **A template**: proper pieces, no two literals next to each other. -/
def Template (ps : List Piece) : Prop :=
  (∀ p ∈ ps, p.Proper) ∧ ps.IsChain fun p q => ¬ (p.IsLiteral ∧ q.IsLiteral)

theorem Template.tail {p : Piece} {ps : List Piece} (h : Template (p :: ps)) : Template ps :=
  ⟨fun q hq => h.1 q (List.mem_cons_of_mem p hq), h.2.of_cons⟩

/-! ## Reading a template -/

namespace Reference

/-- Only behind a dollar sign and a brace is there a reference. -/
theorem ofChars?_eq_none {cs : List Char} (h : ¬ ['$', '\x7b'] <+: cs) : ofChars? cs = none := by
  unfold ofChars?
  split
  · rename_i rest
    exact absurd (List.prefix_append ['$', '\x7b'] rest) h
  · rfl

theorem isNameChar_of_properName {name : List Char} (h : Piece.ProperName name) :
    ∀ c ∈ name, isNameChar c = true := by
  intro c hc
  have hbrace : c ≠ '\x7d' := fun heq => h.2.1 (heq ▸ hc)
  have hcolon : c ≠ ':' := fun heq => h.2.2 (heq ▸ hc)
  simp [isNameChar, hbrace, hcolon]

/-- A name is read up to the character that ends it. -/
theorem ofChars?_name {name : List Char} (h : Piece.ProperName name) {c : Char} (hstop : isNameChar c = false)
    (rest : List Char) :
    ofChars? ('$' :: '\x7b' :: (name ++ c :: rest)) = ofTail? name (c :: rest) := by
  have hname := isNameChar_of_properName h
  have htake : (name ++ c :: rest).takeWhile isNameChar = name := by
    rw [List.takeWhile_append_of_pos hname, List.takeWhile_cons_of_neg (by simp [hstop]), List.append_nil]
  have hdrop : (name ++ c :: rest).dropWhile isNameChar = c :: rest := by
    rw [List.dropWhile_append_of_pos hname, List.dropWhile_cons_of_neg (by simp [hstop])]
  have hempty : name.isEmpty = false := List.isEmpty_eq_false_iff.mpr h.1
  rw [ofChars?, htake, hdrop, hempty]
  rfl

/-- A default is read up to the brace behind it. -/
theorem ofTail?_fallback {fallback : List Char} (h : '\x7d' ∉ fallback) (name rest : List Char) :
    ofTail? name (':' :: '-' :: (fallback ++ '\x7d' :: rest)) = some ⟨name, some fallback⟩ := by
  have hkept : ∀ c ∈ fallback, (c != '\x7d') = true := fun c hc => bne_iff_ne.mpr fun heq => h (heq ▸ hc)
  have htake : (fallback ++ '\x7d' :: rest).takeWhile (· != '\x7d') = fallback := by
    rw [List.takeWhile_append_of_pos hkept, List.takeWhile_cons_of_neg (by simp), List.append_nil]
  rw [ofTail?, htake, if_pos (by simp)]

end Reference

variable {env : Environment}

/-- Characters that are passed over leave nothing behind. -/
theorem expandChars_skip (env : Environment) (cs rest : List Char) :
    expandChars env cs.length (cs ++ rest) = expandChars env 0 rest := by
  induction cs with
  | nil => rfl
  | cons c cs ih =>
    rw [List.length_cons, List.cons_append, expandChars]
    exact ih

/-- **A literal** is kept, unless what follows makes a reference of its last character. -/
theorem expandChars_literal {cs rest : List Char} (h : ¬ ['$', '\x7b'] <:+: cs) (hrest : rest.head? ≠ some '\x7b') :
    expandChars env 0 (cs ++ rest) = cs ++ expandChars env 0 rest := by
  induction cs with
  | nil => rfl
  | cons c cs ih =>
    -- A reference starts with two characters: both are in the literal, or only the first one, at its end.
    have hnone : Reference.ofChars? (c :: (cs ++ rest)) = none := by
      apply Reference.ofChars?_eq_none
      intro honset
      obtain ⟨rfl, hbrace⟩ := List.cons_prefix_cons.mp honset
      cases cs with
      | nil =>
        obtain ⟨after, hafter⟩ := hbrace
        exact hrest (by rw [show rest = '\x7b' :: after from hafter.symm]; rfl)
      | cons d cs =>
        obtain ⟨rfl, -⟩ := List.cons_prefix_cons.mp hbrace
        exact h (List.prefix_append ['$', '\x7b'] cs).isInfix
    rw [List.cons_append, expandChars, hnone]
    dsimp only
    rw [ih fun hin => h (hin.trans (List.suffix_cons c cs).isInfix)]
    rfl

/-- Where a reference stands in front, its value takes its place, and the text goes on behind it. -/
theorem expandChars_of_reference {r : Reference} {cs : List Char} (h : Reference.ofChars? cs = some r)
    {rest : List Char} (htext : cs = r.text ++ rest) :
    expandChars env 0 cs = r.value env ++ expandChars env 0 rest := by
  -- The first character has been looked at already, so one less is passed over.
  obtain ⟨c, after, hcons⟩ : ∃ c after, r.text = c :: after := ⟨_, _, rfl⟩
  rw [htext, hcons, List.cons_append] at h ⊢
  rw [expandChars, h]
  dsimp only
  rw [hcons, List.length_cons, Nat.add_sub_cancel, expandChars_skip]

/-- **A reference** is replaced by what it stands for, whatever follows. -/
theorem expandChars_reference {p : Piece} (h : p.Proper) (hreference : ¬ p.IsLiteral) (rest : List Char) :
    expandChars env 0 (p.text ++ rest) = p.filled env ++ expandChars env 0 rest := by
  cases p with
  | literal cs => exact absurd trivial hreference
  | plain name =>
    have hread : Reference.ofChars? ((Piece.plain name).text ++ rest) = some ⟨name, none⟩ := by
      have hname := Reference.ofChars?_name h (c := '\x7d') (by decide) rest
      simpa [Piece.text, Reference.ofTail?] using hname
    have htext : (Piece.plain name).text ++ rest = (⟨name, none⟩ : Reference).text ++ rest := by
      simp [Piece.text, Reference.text]
    rw [expandChars_of_reference hread htext]
    congr 1
    cases hvariable : env.get? (String.ofList name) with
    | some v => simp [Reference.value, Piece.filled, hvariable]
    | none => simp [Reference.value, Piece.filled, hvariable, Piece.text, Reference.text]
  | withDefault name fallback =>
    have hread : Reference.ofChars? ((Piece.withDefault name fallback).text ++ rest)
        = some ⟨name, some fallback⟩ := by
      have hname := Reference.ofChars?_name h.1 (c := ':') (by decide) ('-' :: (fallback ++ '\x7d' :: rest))
      rw [Reference.ofTail?_fallback h.2] at hname
      simpa [Piece.text] using hname
    have htext : (Piece.withDefault name fallback).text ++ rest = (⟨name, some fallback⟩ : Reference).text ++ rest := by
      simp [Piece.text, Reference.text]
    rw [expandChars_of_reference hread htext]
    congr 1

/-- Behind a literal of a template there is a dollar sign or nothing. -/
theorem Template.head?_ne_brace {cs : List Char} {ps : List Piece} (h : Template (.literal cs :: ps)) :
    (ps.flatMap Piece.text).head? ≠ some '\x7b' := by
  cases ps with
  | nil => simp
  | cons p ps =>
    have hapart := (List.isChain_cons_cons.mp h.2).1
    cases p with
    | literal ds => exact absurd ⟨trivial, trivial⟩ hapart
    | plain name => simp [Piece.text]
    | withDefault name fallback => simp [Piece.text]

/-- **A template is filled piece by piece.** -/
theorem expandChars_template {ps : List Piece} (h : Template ps) :
    expandChars env 0 (ps.flatMap Piece.text) = ps.flatMap (Piece.filled env) := by
  induction ps with
  | nil => rfl
  | cons p ps ih =>
    have hproper := h.1 p List.mem_cons_self
    rw [List.flatMap_cons, List.flatMap_cons, ← ih h.tail]
    cases p with
    | literal cs => exact expandChars_literal hproper h.head?_ne_brace
    | plain name => exact expandChars_reference hproper not_false _
    | withDefault name fallback => exact expandChars_reference hproper not_false _

/-! ## Places of a value -/

namespace Value

/-- What a value is at one place, its parts aside: their number, the keys of a mapping, a text, or anything else
    whole. -/
inductive Node where
  | list (length : Nat)
  | map (keys : List Value)
  | text (s : String)
  | other (v : Value)

/-- The same place with its text expanded, if it is one. -/
def Node.expanded (env : Environment) : Node → Node
  | .text s => .text (expandText env s)
  | node => node

/-- What a value is at its own place. -/
def node : Value → Node
  | .list xs => .list xs.length
  | .map es => .map (es.map (·.1))
  | .text s => .text s
  | v => .other v

/-- The parts of a list, and those of a mapping under its keys, in order. -/
def parts : Value → List Value
  | .list xs => xs
  | .map es => es.map (·.2)
  | _ => []

/-- **The part of a value** to which a route leads, a number for each list or mapping on the way. -/
def part? : Value → List Nat → Option Value
  | v, [] => some v
  | v, i :: route => v.parts[i]?.bind fun part => part.part? route

theorem expandAll_eq (env : Environment) (xs : List Value) : expandAll env xs = xs.map (expand env) := by
  induction xs with
  | nil => simp [expandAll]
  | cons x xs ih => rw [expandAll, ih, List.map_cons]

theorem expandEntries_eq (env : Environment) (es : List (Value × Value)) :
    expandEntries env es = es.map fun e => (e.1, expand env e.2) := by
  induction es with
  | nil => simp [expandEntries]
  | cons e es ih => rw [expandEntries, ih, List.map_cons]

/-- Expansion changes a value at its own place only if it is a text. -/
theorem node_expand (env : Environment) (v : Value) : (v.expand env).node = v.node.expanded env := by
  cases v with
  | list xs => simp [expand, expandAll_eq, node, Node.expanded]
  | map es => simp [expand, expandEntries_eq, node, Node.expanded]
  | text s => simp [expand, node, Node.expanded]
  | _ => simp [expand, node, Node.expanded]

/-- Every part is expanded by itself. -/
theorem parts_expand (env : Environment) (v : Value) : (v.expand env).parts = v.parts.map (expand env) := by
  cases v with
  | list xs => simp [expand, expandAll_eq, parts]
  | map es => simp [expand, expandEntries_eq, parts]
  | _ => simp [expand, parts]

/-- **At every place** there is what was there, expanded. -/
theorem part?_expand (env : Environment) (v : Value) (route : List Nat) :
    (v.expand env).part? route = (v.part? route).map (expand env) := by
  induction route generalizing v with
  | nil => rfl
  | cons i route ih =>
    rw [part?, part?, parts_expand, List.getElem?_map]
    cases v.parts[i]? with
    | none => rfl
    | some part => exact ih part

/-- The value that has these parts at a place. -/
def Node.filled (parts : List Value) : Node → Value
  | .list _ => .list parts
  | .map keys => .map (keys.zip parts)
  | .text s => .text s
  | .other v => v

/-- What a value is at its own place, and its parts, make the value. -/
theorem filled_node (v : Value) : v.node.filled v.parts = v := by
  cases v with
  | map es => exact congrArg map (List.zip_of_prod rfl rfl).symm
  | _ => rfl

/-- The parts of a value are smaller. -/
theorem sizeOf_lt_of_mem_parts {v part : Value} (h : part ∈ v.parts) : sizeOf part < sizeOf v := by
  cases v with
  | list xs =>
    have hlt : sizeOf part < sizeOf xs := List.sizeOf_lt_of_mem h
    rw [list.sizeOf_spec]
    omega
  | map es =>
    obtain ⟨⟨k, u⟩, hmem, rfl⟩ := List.mem_map.mp h
    have hlt := List.sizeOf_lt_of_mem hmem
    rw [Prod.mk.sizeOf_spec] at hlt
    rw [map.sizeOf_spec]
    dsimp only
    omega
  | _ => exact absurd h List.not_mem_nil

/-- **The nodes make the value**: two values that are alike at every place are one. -/
theorem eq_of_nodes_eq {v w : Value} (h : ∀ route, (v.part? route).map node = (w.part? route).map node) : v = w := by
  have hnode : v.node = w.node := Option.some.inj (h [])
  have hparts : v.parts = w.parts := by
    refine List.ext_getElem? fun i => ?_
    -- Whatever route leads on from a part, it leads to the same node in both values.
    have hpart : ∀ route, (v.parts[i]?.bind fun part => part.part? route).map node
        = (w.parts[i]?.bind fun part => part.part? route).map node := fun route => h (i :: route)
    cases hv : v.parts[i]? with
    | none =>
      cases hw : w.parts[i]? with
      | none => rfl
      | some q => simpa [hv, hw, part?] using hpart []
    | some p =>
      cases hw : w.parts[i]? with
      | none => simpa [hv, hw, part?] using hpart []
      | some q =>
        have hlt := sizeOf_lt_of_mem_parts (List.mem_of_getElem? hv)
        rw [hv, hw] at hpart
        exact congrArg some (eq_of_nodes_eq hpart)
  rw [← filled_node v, hnode, hparts, filled_node]
termination_by sizeOf v

/-! ## The law -/

/-- **References are replaced once, and nothing else is.** A template comes to its literals as they are and to what
    its references stand for, as it is. Expanding a value leaves at every place what was there, with its text expanded
    if it is one; no other value is like this. -/
theorem expand_replaces_once (env : Environment) :
    (∀ ps, Template ps → expandText env (String.ofList (ps.flatMap Piece.text))
        = String.ofList (ps.flatMap (Piece.filled env)))
      ∧ ∀ v w : Value, v.expand env = w
        ↔ ∀ route, (w.part? route).map node = (v.part? route).map fun u => u.node.expanded env := by
  refine ⟨?_, ?_⟩
  · intro ps htemplate
    rw [expandText, String.toList_ofList, expandChars_template htemplate]
  · intro v w
    have hexpand : ∀ route, ((v.expand env).part? route).map node
        = (v.part? route).map fun u => u.node.expanded env := by
      intro route
      rw [part?_expand, Option.map_map]
      exact congrFun (congrArg Option.map (funext (node_expand env))) _
    constructor
    · rintro rfl
      exact hexpand
    · intro hnodes
      exact eq_of_nodes_eq fun route => (hexpand route).trans (hnodes route).symm

end Value

end TopicReader
