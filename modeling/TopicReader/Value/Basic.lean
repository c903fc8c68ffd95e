import TopicReader.Calendar
import TopicReader.Category
import TopicReader.Number.Double
import TopicReader.Offset

/-!
# `Value` — the values of settings, log fields and failure arguments

## Contents
- **The type.** `Value`: scalars, sequences, and mappings as ordered pairs.
- **Truth.** `Value.truthy`: empty, zero and null values count as false.
- **Sameness.** `Value.same`: equality across the numeric kinds, as used for keys and membership. What is no
  number equals nothing but the very object.
- **Mappings.** `Mapping`: ordered pairs with `get?`, `put` (an old key keeps its place) and `update`.
-/

namespace TopicReader

/-- A dynamic value. `foreign` is an object known by its two texts only. -/
inductive Value where
  | null
  | bool (b : Bool)
  | int (n : Int)
  | float (x : Double)
  | text (s : String)
  | bytes (growable : Bool) (bs : List UInt8)
  | list (xs : List Value)
  | tuple (xs : List Value)
  | set (frozen : Bool) (xs : List Value)
  | map (entries : List (Value × Value))
  | date (d : Date)
  | time (t : DateTime)
  | path (p : String)
  | category (c : Category)
  | offset (o : Offset)
  | foreign (shown quoted : String)
deriving Repr, Inhabited

namespace Value

/-- Does a value count as true? -/
def truthy : Value → Bool
  | .null => false
  | .bool b => b
  | .int n => n != 0
  | .float x => !x.isZero
  | .text s => s != ""
  | .bytes _ bs => !bs.isEmpty
  | .list xs => !xs.isEmpty
  | .tuple xs => !xs.isEmpty
  | .set _ xs => !xs.isEmpty
  | .map es => !es.isEmpty
  | _ => true

/-- Is it null? -/
def isNull : Value → Bool
  | .null => true
  | _ => false

/-- A number of any kind as an exact integer or a binary64 number. -/
def number? : Value → Option (Int ⊕ Double)
  | .bool b => some (.inl (if b then 1 else 0))
  | .int n => some (.inl n)
  | .float x => some (.inr x)
  | _ => none

/-- Equality of an integer and a binary64 number. -/
def sameIntDouble (n : Int) (x : Double) : Bool := x.exactInt? == some n

/-- Equality of numbers across kinds. One object that is no number is itself. -/
def sameNumber : Int ⊕ Double → Int ⊕ Double → Bool
  | .inl a, .inl b => a == b
  | .inl a, .inr y => sameIntDouble a y
  | .inr x, .inl b => sameIntDouble b x
  | .inr x, .inr y => x == y || Double.eq x y

/-- Equality of times: on the clock when neither zone is known, as instants when both are. -/
def sameTime (a b : DateTime) : Bool :=
  match a.zone, b.zone with
  | none, none => a == b
  | some _, some _ => a.instant == b.instant
  | _, _ => false

mutual

/-- Equality of values, across the numeric kinds, as collections compare what they hold. Sets and mappings are
    equal in any order. -/
def same (a b : Value) : Bool :=
  match a, b with
  | .null, .null => true
  | .text s, .text t => s == t
  | .bytes _ x, .bytes _ y => x == y
  | .list xs, .list ys => sameAll xs ys
  | .tuple xs, .tuple ys => sameAll xs ys
  | .set _ xs, .set _ ys => xs.length == ys.length && holdsAll xs ys
  | .map xs, .map ys => xs.length == ys.length && holdsEntries xs ys
  | .date x, .date y => x == y
  | .time x, .time y => sameTime x y
  | .path x, .path y => x == y
  | .category x, .category y => x == y
  | .offset x, .offset y => x == y
  | a, b =>
    match a.number?, b.number? with
    | some x, some y => sameNumber x y
    | _, _ => false
termination_by structural b

/-- Equality of sequences. -/
def sameAll (xs ys : List Value) : Bool :=
  match xs, ys with
  | [], [] => true
  | x :: xs, y :: ys => same x y && sameAll xs ys
  | _, _ => false
termination_by structural ys

/-- Does the first list hold every value of the second? -/
def holdsAll (xs ys : List Value) : Bool :=
  match ys with
  | [] => true
  | y :: rest => (xs.any fun x => same x y) && holdsAll xs rest
termination_by structural ys

/-- Does the first mapping hold every entry of the second? -/
def holdsEntries (xs ys : List (Value × Value)) : Bool :=
  match ys with
  | [] => true
  | (l, w) :: rest => (xs.any fun e => same e.1 l && same e.2 w) && holdsEntries xs rest
termination_by structural ys

end

end Value

/-- An ordered mapping from values to values. -/
abbrev Mapping := List (Value × Value)

namespace Mapping

/-- The value of a key. -/
def get? (m : Mapping) (k : Value) : Option Value :=
  (m.find? fun e => e.1.same k).map (·.2)

/-- The value of a key that is a text. -/
def getText? (m : Mapping) (k : String) : Option Value := get? m (.text k)

/-- Is the key present? -/
def hasKey (m : Mapping) (k : Value) : Bool := (m.find? fun e => e.1.same k).isSome

/-- Set a key: in its old place if it is there, at the end otherwise. -/
def put (m : Mapping) (k v : Value) : Mapping :=
  match m with
  | [] => [(k, v)]
  | e :: rest => if e.1.same k then (e.1, v) :: rest else e :: put rest k v

/-- Set every key of the second mapping, in order. -/
def update (m other : Mapping) : Mapping := other.foldl (fun acc e => put acc e.1 e.2) m

/-- The keys, in order. -/
def keys (m : Mapping) : List Value := m.map (·.1)

end Mapping

/-- Fields: an ordered mapping from names to values. -/
abbrev Fields := List (String × Value)

namespace Fields

/-- The value of a field. -/
def get? (fs : Fields) (name : String) : Option Value :=
  (fs.find? fun f => f.1 == name).map (·.2)

/-- Is the field present? -/
def has (fs : Fields) (name : String) : Bool := fs.any fun f => f.1 == name

/-- Set a field: in its old place if it is there, at the end otherwise. -/
def put (fs : Fields) (name : String) (v : Value) : Fields :=
  match fs with
  | [] => [(name, v)]
  | f :: rest => if f.1 == name then (f.1, v) :: rest else f :: put rest name v

/-- Set a field unless it is there. -/
def putNew (fs : Fields) (name : String) (v : Value) : Fields :=
  if has fs name then fs else fs ++ [(name, v)]

/-- Set every field of the second list, in order. -/
def update (fs other : Fields) : Fields := other.foldl (fun acc f => put acc f.1 f.2) fs

/-- The fields as a mapping. -/
def toMapping (fs : Fields) : Mapping := fs.map fun f => (.text f.1, f.2)

end Fields

end TopicReader
