/-!
# `Text.Utf8` — bytes as text

## Contents
- **Strict.** `decode?`: the text that the bytes spell, if they are well formed.
- **Piecewise.** `decodeOn`: the same for bytes that come in pieces; what one piece leaves open the next one
  completes.
- **Lenient.** `decodeLossy`: every ill-formed stretch, as long as it could still have begun a character,
  becomes one replacement character.
- **Encoding.** `encode`: the bytes of a text.
-/

namespace TopicReader.Text.Utf8

/-- What may come next inside a character: the continuation bytes still owed and the range of the
    next one. -/
structure Owed where
  count : Nat
  low : Nat
  high : Nat
deriving DecidableEq, Repr

/-- A first byte: its payload bits and what it owes. -/
def first (b : Nat) : Option (Nat × Owed) :=
  if b < 0x80 then some (b, ⟨0, 0x80, 0xbf⟩)
  else if 0xc2 ≤ b ∧ b ≤ 0xdf then some (b - 0xc0, ⟨1, 0x80, 0xbf⟩)
  else if b = 0xe0 then some (b - 0xe0, ⟨2, 0xa0, 0xbf⟩)
  else if b = 0xed then some (b - 0xe0, ⟨2, 0x80, 0x9f⟩)
  else if 0xe1 ≤ b ∧ b ≤ 0xef then some (b - 0xe0, ⟨2, 0x80, 0xbf⟩)
  else if b = 0xf0 then some (b - 0xf0, ⟨3, 0x90, 0xbf⟩)
  else if b = 0xf4 then some (b - 0xf0, ⟨3, 0x80, 0x8f⟩)
  else if 0xf1 ≤ b ∧ b ≤ 0xf3 then some (b - 0xf0, ⟨3, 0x80, 0xbf⟩)
  else none

/-- The payload after the owed bytes, if they are all there, and how many of them were taken. -/
def follow (value : Nat) (owed : Owed) (taken : Nat) : List UInt8 → Option Nat × Nat
  | [] => (if owed.count = 0 then some value else none, taken)
  | b :: rest =>
    if owed.count = 0 then (some value, taken)
    else if owed.low ≤ b.toNat ∧ b.toNat ≤ owed.high then
      follow (value * 64 + (b.toNat - 0x80)) ⟨owed.count - 1, 0x80, 0xbf⟩ (taken + 1) rest
    else (none, taken)

/-- One character or one ill-formed stretch from the front, with the number of bytes after the first. -/
def step (b : UInt8) (rest : List UInt8) : Option Char × Nat :=
  match first b.toNat with
  | none => (none, 0)
  | some (value, owed) =>
    let (whole, taken) := follow value owed 0 rest
    (whole.map Char.ofNat, taken)

/-- Decode, with `none` for every ill-formed stretch. -/
def decodeEach (bytes : List UInt8) : List (Option Char) :=
  match bytes with
  | [] => []
  | b :: rest =>
    let (c, taken) := step b rest
    c :: decodeEach (rest.drop taken)
termination_by bytes.length
decreasing_by simp only [List.length_drop, List.length_cons]; omega

/-- The text that well-formed bytes spell. -/
def decode? (bytes : List UInt8) : Option String :=
  ((decodeEach bytes).mapM id).map String.ofList

/-- The text of any bytes, a replacement character standing for each ill-formed stretch. -/
def decodeLossy (bytes : List UInt8) : String :=
  String.ofList ((decodeEach bytes).map fun c => c.getD (Char.ofNat 0xfffd))

/-! ## Piecewise -/

/-- A character that has begun: its payload so far, and what it owes. -/
structure Begun where
  value : Nat
  owed : Owed
deriving DecidableEq, Repr

/-- A character if it owes nothing more. -/
def Begun.settle (b : Begun) : Char ⊕ Begun :=
  if b.owed.count = 0 then .inl (Char.ofNat b.value) else .inr b

/-- What one more byte makes of a character that has begun, or of none; nothing if it cannot come here. -/
def takeByte (begun : Option Begun) (b : UInt8) : Option (Char ⊕ Begun) :=
  match begun with
  | none => (first b.toNat).map fun f => (Begun.mk f.1 f.2).settle
  | some x =>
    if x.owed.low ≤ b.toNat ∧ b.toNat ≤ x.owed.high then
      some (Begun.mk (x.value * 64 + (b.toNat - 0x80)) ⟨x.owed.count - 1, 0x80, 0xbf⟩).settle
    else none

/-- The characters that a piece completes, and the one that it leaves open; nothing if it is ill-formed. -/
def decodeOn (begun : Option Begun) : List UInt8 → Option (List Char × Option Begun)
  | [] => some ([], begun)
  | b :: rest =>
    match takeByte begun b with
    | none => none
    | some (.inl c) => (decodeOn none rest).map fun r => (c :: r.1, r.2)
    | some (.inr x) => decodeOn (some x) rest

/-! ## Encoding -/

/-- The bytes of a text. -/
def encode (s : String) : List UInt8 := s.toUTF8.toList

end TopicReader.Text.Utf8
