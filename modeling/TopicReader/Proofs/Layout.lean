import Mathlib.Data.List.Basic
import TopicReader.Record

/-!
# `Proofs.Layout` — what is written can be read in one way only

Records are written one behind the other, each as up to three fields with a mark behind every field. Here it is said
when they can be told apart again: when no field holds the mark behind it. A reader who goes on from the front always
knows from the layout which field comes next, and so which byte to look for; that is why two marks may be the same
byte, and why a key may hold the mark of a payload. Offsets are printed without a length, so their mark must not be
able to continue them.

## Contents
- **Offsets.** `isDigit_of_mem_offset` and `offset_inj`: the bytes of a number that is not negative are digits, and say
  which number it is.
- **Fields.** `Layout.field_inj`: what stands in front of its mark.
- **One record.** `Layout.Shown`, `Layout.Legible`, and `Layout.render_append_inj`.
- **All records.** `Layout.flatMap_render_eq_iff`.
-/

namespace TopicReader

open TopicReader.Text

/-! ## Offsets -/

namespace Text.Utf8

/-- The loop behind the list of some bytes goes from a place on and puts what came before in front. -/
theorem toList_loop (bytes : ByteArray) (place : Nat) (before : List UInt8) :
    ByteArray.toList.loop bytes place before = before.reverse ++ bytes.data.toList.drop place := by
  induction place, before using ByteArray.toList.loop.induct bytes with
  | case1 place before hlt ih =>
    have hplace : place < bytes.data.toList.length := hlt
    have hbyte : bytes.get! place = bytes.data.toList[place] := by
      rw [Array.getElem_toList]
      exact getElem!_pos bytes.data place hlt
    rw [ByteArray.toList.loop, if_pos hlt, ih, List.drop_eq_getElem_cons hplace, hbyte, List.reverse_cons,
      List.append_assoc]
    rfl
  | case2 place before hge =>
    have hplace : bytes.data.toList.length ≤ place := Nat.le_of_not_lt hge
    rw [ByteArray.toList.loop, if_neg hge, List.drop_eq_nil_of_le hplace, List.append_nil]

theorem encode_eq_data (s : String) : encode s = s.toUTF8.data.toList := by
  unfold encode ByteArray.toList
  rw [toList_loop]
  rfl

/-- The bytes of a text are those of its characters. -/
theorem encode_eq (s : String) : encode s = s.toList.flatMap String.utf8EncodeChar := by
  have hbytes : s.toUTF8 = s.toList.utf8Encode := by
    rw [String.toUTF8_eq_toByteArray, ← String.toByteArray_ofList, String.ofList_toList]
  rw [encode_eq_data, hbytes]
  exact List.data_toByteArray ▸ rfl

theorem encode_inj {s t : String} (h : encode s = encode t) : s = t := by
  rw [encode_eq_data, encode_eq_data] at h
  have hbytes : s.toUTF8 = t.toUTF8 := ByteArray.ext (Array.toList_inj.mp h)
  rwa [String.toUTF8_eq_toByteArray, String.toUTF8_eq_toByteArray, String.toByteArray_inj] at hbytes

end Text.Utf8

/-- Is a byte an ASCII digit? -/
def isDigitByte (b : UInt8) : Bool := 0x30 ≤ b && b ≤ 0x39

theorem isDigitByte_of_isDigit {c : Char} (h : c.isDigit = true) {b : UInt8} (hb : b ∈ String.utf8EncodeChar c) :
    isDigitByte b = true := by
  have hbounds : 48 ≤ c.val.toNat ∧ c.val.toNat ≤ 57 := by
    simpa [Char.isDigit, UInt32.le_iff_toNat_le] using h
  obtain ⟨hlow, hhigh⟩ := hbounds
  have hone : c.val.toNat ≤ 127 := by omega
  have hbyte : b = UInt8.ofNat c.val.toNat := by
    unfold String.utf8EncodeChar at hb
    rw [if_pos hone] at hb
    exact List.mem_singleton.mp hb
  have hvalue : b.toNat = c.val.toNat := by
    rw [hbyte, UInt8.toNat_ofNat']
    omega
  simp only [isDigitByte, Bool.and_eq_true, decide_eq_true_eq, UInt8.le_iff_toNat_le, hvalue]
  exact ⟨hlow, hhigh⟩

theorem intText_of_nonneg {n : Int} (h : 0 ≤ n) : intText n = n.natAbs.repr := by
  have hnot : ¬ n < 0 := by omega
  unfold intText
  rw [if_neg hnot]

/-- The bytes of a number that is not negative are digits. -/
theorem isDigit_of_mem_offset {n : Int} (h : 0 ≤ n) {b : UInt8} (hb : b ∈ Utf8.encode (intText n)) :
    isDigitByte b = true := by
  rw [Utf8.encode_eq, intText_of_nonneg h, Nat.toList_repr, List.mem_flatMap] at hb
  obtain ⟨c, hc, hb⟩ := hb
  have hdigit : c.isDigit = true := Nat.isDigit_of_mem_toDigits (by decide) (by decide) hc
  exact isDigitByte_of_isDigit hdigit hb

/-- The bytes of a number that is not negative say which number it is. -/
theorem offset_inj {m n : Int} (hm : 0 ≤ m) (hn : 0 ≤ n) (h : Utf8.encode (intText m) = Utf8.encode (intText n)) :
    m = n := by
  have htext : intText m = intText n := Utf8.encode_inj h
  rw [intText_of_nonneg hm, intText_of_nonneg hn] at htext
  have hdigits : Nat.toDigits 10 m.natAbs = Nat.toDigits 10 n.natAbs := by
    rw [← Nat.toList_repr, htext, Nat.toList_repr]
  have hvalue : m.natAbs = n.natAbs :=
    calc m.natAbs = Nat.ofDigitChars 10 (Nat.toDigits 10 m.natAbs) 0 :=
          (Nat.ofDigitChars_toDigits (by decide) (by decide)).symm
      _ = Nat.ofDigitChars 10 (Nat.toDigits 10 n.natAbs) 0 := by rw [hdigits]
      _ = n.natAbs := Nat.ofDigitChars_toDigits (by decide) (by decide)
  omega

namespace Layout

/-! ## Fields -/

/-- **A field that does not hold its mark** ends at the first one. -/
theorem field_inj {mark : UInt8} {a b xs ys : List UInt8} (ha : mark ∉ a) (hb : mark ∉ b)
    (h : a ++ mark :: xs = b ++ mark :: ys) : a = b ∧ xs = ys := by
  induction a generalizing b with
  | nil =>
    cases b with
    | nil => exact ⟨rfl, (List.cons.inj h).2⟩
    | cons c b => exact absurd ((List.cons.inj h).1 ▸ List.mem_cons_self) hb
  | cons d a ih =>
    cases b with
    | nil => exact absurd ((List.cons.inj h).1 ▸ List.mem_cons_self) ha
    | cons c b =>
      obtain ⟨hhead, htail⟩ := List.cons.inj h
      have ha' : mark ∉ a := fun hmem => ha (List.mem_cons_of_mem _ hmem)
      have hb' : mark ∉ b := fun hmem => hb (List.mem_cons_of_mem _ hmem)
      obtain ⟨hrest, hxs⟩ := ih ha' hb' htail
      exact ⟨by rw [hhead, hrest], hxs⟩

/-! ## One record -/

/-- The layout with single bytes for marks: one behind payloads, and one behind keys, if keys are written. -/
def ofMarks (mark : UInt8) (keyMark : Option UInt8) (printOffset unbuffered : Bool) : Layout :=
  ⟨[mark], keyMark.map fun m => [m], printOffset, unbuffered⟩

/-- What can be seen of a record. -/
@[ext]
structure Shown where
  offset : Option Int
  key : Option (List UInt8)
  payload : List UInt8
deriving DecidableEq, Repr

/-- What a layout shows of a record: the offset and the key where they are asked for; what is absent looks empty. -/
def shown (l : Layout) (r : Record) : Shown where
  offset := if l.printOffset then some r.offset else none
  key := l.keyDelimiter.map fun _ => r.key.getD []
  payload := r.payload.getD []

/-- **A record whose fields do not hold their marks.** -/
structure Legible (mark : UInt8) (keyMark : Option UInt8) (r : Record) : Prop where
  offset : 0 ≤ r.offset
  key : ∀ m, keyMark = some m → m ∉ r.key.getD []
  payload : mark ∉ r.payload.getD []

/-- The byte behind an offset: that behind keys, or a line break where there is none. -/
def offsetByte (keyMark : Option UInt8) : UInt8 := keyMark.getD 0x0a

theorem offsetMark_ofMarks (mark : UInt8) (keyMark : Option UInt8) (printOffset unbuffered : Bool) :
    (ofMarks mark keyMark printOffset unbuffered).offsetMark = [offsetByte keyMark] := by
  cases keyMark <;> rfl

variable {mark : UInt8} {keyMark : Option UInt8} {printOffset unbuffered : Bool} {r s : Record}
  {xs ys : List UInt8}

theorem offsetPart_append_inj (hdigit : printOffset = true → isDigitByte (offsetByte keyMark) = false)
    (hr : 0 ≤ r.offset) (hs : 0 ≤ s.offset)
    (h : (ofMarks mark keyMark printOffset unbuffered).offsetPart r ++ xs
      = (ofMarks mark keyMark printOffset unbuffered).offsetPart s ++ ys) :
    ((ofMarks mark keyMark printOffset unbuffered).shown r).offset
        = ((ofMarks mark keyMark printOffset unbuffered).shown s).offset ∧ xs = ys := by
  unfold offsetPart at h
  rw [offsetMark_ofMarks] at h
  cases printOffset with
  | false => exact ⟨rfl, h⟩
  | true =>
    -- No digit is the mark, so the first mark is the one behind all digits.
    have hfree {n : Int} (hn : 0 ≤ n) : offsetByte keyMark ∉ Utf8.encode (intText n) := by
      intro hmem
      have hyes := isDigit_of_mem_offset hn hmem
      rw [hdigit rfl] at hyes
      cases hyes
    have hfields : Utf8.encode (intText r.offset) ++ offsetByte keyMark :: xs
        = Utf8.encode (intText s.offset) ++ offsetByte keyMark :: ys := by
      simpa [ofMarks] using h
    obtain ⟨hdigits, hrest⟩ := field_inj (hfree hr) (hfree hs) hfields
    exact ⟨congrArg some (offset_inj hr hs hdigits), hrest⟩

theorem keyPart_append_inj (hr : ∀ m, keyMark = some m → m ∉ r.key.getD [])
    (hs : ∀ m, keyMark = some m → m ∉ s.key.getD [])
    (h : (ofMarks mark keyMark printOffset unbuffered).keyPart r ++ xs
      = (ofMarks mark keyMark printOffset unbuffered).keyPart s ++ ys) :
    ((ofMarks mark keyMark printOffset unbuffered).shown r).key
        = ((ofMarks mark keyMark printOffset unbuffered).shown s).key ∧ xs = ys := by
  cases keyMark with
  | none => exact ⟨rfl, h⟩
  | some m =>
    have hfields : r.key.getD [] ++ m :: xs = s.key.getD [] ++ m :: ys := by
      simpa [keyPart, ofMarks] using h
    obtain ⟨hkey, hrest⟩ := field_inj (hr m rfl) (hs m rfl) hfields
    exact ⟨congrArg some hkey, hrest⟩

/-- **One record is read from the front**: what a legible record shows, and what comes behind it, can be told from the
    bytes. -/
theorem render_append_inj (hdigit : printOffset = true → isDigitByte (offsetByte keyMark) = false)
    (hr : Legible mark keyMark r) (hs : Legible mark keyMark s)
    (h : (ofMarks mark keyMark printOffset unbuffered).render r ++ xs
      = (ofMarks mark keyMark printOffset unbuffered).render s ++ ys) :
    (ofMarks mark keyMark printOffset unbuffered).shown r = (ofMarks mark keyMark printOffset unbuffered).shown s
      ∧ xs = ys := by
  unfold render at h
  simp only [List.append_assoc] at h
  obtain ⟨hoffset, h⟩ := offsetPart_append_inj hdigit hr.offset hs.offset h
  obtain ⟨hkey, h⟩ := keyPart_append_inj hr.key hs.key h
  obtain ⟨hpayload, hrest⟩ := field_inj hr.payload hs.payload h
  exact ⟨Shown.ext hoffset hkey hpayload, hrest⟩

/-- A record takes up at least the mark behind its payload. -/
theorem render_ne_nil (l : Layout) (hmark : l.delimiter ≠ []) (r : Record) : l.render r ≠ [] := by
  intro h
  apply hmark
  exact (List.append_eq_nil_iff.mp h).2

/-- What is written of a record is what is shown of it. -/
theorem render_of_shown {l : Layout} {r s : Record} (h : l.shown r = l.shown s) : l.render r = l.render s := by
  obtain ⟨hoffset, hkey, hpayload⟩ := Shown.mk.inj h
  have hoffsetPart : l.offsetPart r = l.offsetPart s := by
    unfold offsetPart
    cases hprint : l.printOffset with
    | false => rfl
    | true =>
      rw [hprint] at hoffset
      rw [Option.some.inj hoffset]
  have hkeyPart : l.keyPart r = l.keyPart s := by
    unfold keyPart
    cases hmark : l.keyDelimiter with
    | none => rfl
    | some bytes =>
      rw [hmark] at hkey
      have hbytes : r.key.getD [] = s.key.getD [] := Option.some.inj hkey
      show r.key.getD [] ++ bytes = s.key.getD [] ++ bytes
      rw [hbytes]
  unfold render
  rw [hoffsetPart, hkeyPart, hpayload]

/-! ## All records -/

/-- **The output is unambiguous.** Where every record is legible, and the mark behind offsets is no digit where offsets
    are printed, two lists of records are written as the same bytes exactly if they are equally long and show the same,
    record by record. -/
theorem flatMap_render_eq_iff (mark : UInt8) (keyMark : Option UInt8) (printOffset unbuffered : Bool)
    (hdigit : printOffset = true → isDigitByte (offsetByte keyMark) = false) (rs ss : List Record)
    (hrs : ∀ r ∈ rs, Legible mark keyMark r) (hss : ∀ s ∈ ss, Legible mark keyMark s) :
    let l := ofMarks mark keyMark printOffset unbuffered
    rs.flatMap l.render = ss.flatMap l.render ↔ rs.map l.shown = ss.map l.shown := by
  intro l
  have hmark : l.delimiter ≠ [] := List.cons_ne_nil mark []
  induction rs generalizing ss with
  | nil =>
    cases ss with
    | nil => exact ⟨fun _ => rfl, fun _ => rfl⟩
    | cons s ss =>
      constructor
      · intro h
        have hnil : l.render s = [] := (List.append_eq_nil_iff.mp h.symm).1
        exact absurd hnil (l.render_ne_nil hmark s)
      · intro h
        cases h
  | cons r rs ih =>
    cases ss with
    | nil =>
      constructor
      · intro h
        have hnil : l.render r = [] := (List.append_eq_nil_iff.mp h).1
        exact absurd hnil (l.render_ne_nil hmark r)
      · intro h
        cases h
    | cons s ss =>
      obtain ⟨hr, hrs⟩ := List.forall_mem_cons.mp hrs
      obtain ⟨hs, hss⟩ := List.forall_mem_cons.mp hss
      constructor
      · intro h
        obtain ⟨hfirst, hrest⟩ := render_append_inj hdigit hr hs h
        rw [List.map_cons, List.map_cons, hfirst, (ih ss hrs hss).mp hrest]
      · intro h
        obtain ⟨hfirst, hrest⟩ := List.cons.inj h
        rw [List.flatMap_cons, List.flatMap_cons, render_of_shown hfirst, (ih ss hrs hss).mpr hrest]

/-- One byte marks everything, and a record without a key and without a payload is written like one with empty ones; a
    record with another offset is not. -/
theorem flatMap_render_eq_iff_of_one_mark :
    let l := ofMarks 0x3b (some 0x3b) true false
    let rs : List Record := [⟨"events", 0, 12, some [0x61], none⟩, ⟨"events", 1, 3, none, some [0x0a]⟩]
    let ss : List Record := [⟨"events", 2, 12, some [0x61], some []⟩, ⟨"events", 1, 3, some [], some [0x0a]⟩]
    let ts : List Record := [⟨"events", 0, 1, some [0x61], none⟩, ⟨"events", 1, 23, none, some [0x0a]⟩]
    (∀ r ∈ rs ++ ss ++ ts, Legible 0x3b (some 0x3b) r) ∧ isDigitByte (offsetByte (some 0x3b)) = false
      ∧ rs.flatMap l.render = ss.flatMap l.render ∧ rs.flatMap l.render ≠ ts.flatMap l.render := by
  intro l rs ss ts
  have hall : ∀ r ∈ rs ++ ss ++ ts, Legible 0x3b (some 0x3b) r := by
    have hfields : ∀ r ∈ rs ++ ss ++ ts, 0 ≤ r.offset ∧ 0x3b ∉ r.key.getD [] ∧ 0x3b ∉ r.payload.getD [] := by decide
    intro r hr
    obtain ⟨hoffset, hkey, hpayload⟩ := hfields r hr
    exact ⟨hoffset, fun m hm => Option.some.inj hm ▸ hkey, hpayload⟩
  have hdigit : isDigitByte (offsetByte (some 0x3b)) = false := by decide
  have hrs : ∀ r ∈ rs, Legible 0x3b (some 0x3b) r :=
    fun r hr => hall r (List.mem_append_left _ (List.mem_append_left _ hr))
  have hss : ∀ s ∈ ss, Legible 0x3b (some 0x3b) s :=
    fun s hs => hall s (List.mem_append_left _ (List.mem_append_right _ hs))
  have hts : ∀ t ∈ ts, Legible 0x3b (some 0x3b) t := fun t ht => hall t (List.mem_append_right _ ht)
  refine ⟨hall, hdigit, ?_, ?_⟩
  · apply (flatMap_render_eq_iff 0x3b (some 0x3b) true false (fun _ => hdigit) rs ss hrs hss).mpr
    decide
  · intro h
    have hshown := (flatMap_render_eq_iff 0x3b (some 0x3b) true false (fun _ => hdigit) rs ts hrs hts).mp h
    exact absurd hshown (by decide)

end Layout

end TopicReader
