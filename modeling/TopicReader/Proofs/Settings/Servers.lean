import Mathlib.Data.List.DropRight
import Mathlib.Data.List.Forall2
import TopicReader.Proofs.Paths
import TopicReader.Proofs.Settings.Precedence

/-!
# `Proofs.Settings.Servers` — which servers an address list names

An address list is cut into items, empty ones are passed over, and then every item loses its scheme and the slashes at
its end. An item that is nothing but those is not empty when it is looked at, so it leaves an empty place between the
commas, and its scheme counts although it names no server; and an item with two schemes loses the first one only. Here
it is told what every item comes to, and that a list is put in order exactly if it has no such items. A single item
without a server does no harm, unless its scheme asks for encryption.

## Contents
- **Items.** `Connection.isGap`, and `Connection.items_eq`.
- **Addresses.** `Connection.Spells`: the scheme and the server that an item spells, and `Connection.spells_iff`.
- **Entries.** `Connection.entriesOf`: what stands between the commas, and `Connection.entriesOf_intercalate`.
- **Order.** `Connection.IsServer` and `Connection.Orderly`, and `Connection.serversOf_orderly_iff`.
-/

namespace TopicReader

open TopicReader.Text

/-! ## Items -/

theorem Text.splitWhere_eq_splitOnP (sep : Char → Bool) (cs : List Char) : splitWhere sep cs = cs.splitOnP sep := by
  induction cs with
  | nil => rw [List.splitOnP_nil, splitWhere]
  | cons c rest ih =>
    rw [List.splitOnP_cons_eq_if_modifyHead, ← ih]
    by_cases hc : sep c = true
    · rw [splitWhere_cons_of_pos hc, if_pos hc]
    · obtain ⟨piece, pieces, hsplit⟩ := List.exists_cons_of_ne_nil (splitWhere_ne_nil sep rest)
      rw [splitWhere_cons_of_neg (eq_false_of_ne_true hc) hsplit, if_neg hc, hsplit, List.modifyHead_cons]

/-- A mark at which nothing is cut is not there. -/
theorem Text.cutAt_eq_none_iff {mark : List Char} (hmark : mark ≠ []) {cs : List Char} :
    cutAt mark cs = none ↔ ¬ mark <:+: cs := by
  induction cs with
  | nil =>
    have hempty : mark.isEmpty = false := eq_false_of_ne_true fun h => hmark (List.isEmpty_iff.mp h)
    simp [cutAt, hempty, hmark]
  | cons c rest ih =>
    rw [List.infix_cons_iff]
    unfold cutAt
    by_cases hfirst : mark <+: c :: rest
    · simp [hfirst]
    · simp [hfirst, ih]

namespace Connection

/-- What stands between the items of an address list: a comma or a blank. -/
def isGap (c : Char) : Bool := c == ',' || isBlank c

/-- The items are what is left between the gaps. -/
theorem items_eq (url : String) : items url = (url.toList.splitOnP isGap).filter (· ≠ []) := by
  unfold items splitAtAny
  rw [splitWhere_eq_splitOnP]
  refine List.filter_congr fun piece _ => ?_
  cases piece <;> rfl

theorem isGap_of_mem_items {url : String} {item : List Char} (h : item ∈ items url) : ∀ c ∈ item, isGap c = false :=
  sep_of_mem_splitWhere (List.mem_filter.mp h).1

/-! ## Addresses -/

/-- **The address that an item spells**: its scheme is what stands before the first scheme mark, if there is one, and
    its server is the rest without the slashes at the end. -/
inductive Spells : List Char → Address → Prop where
  | plain {server slashes : List Char} (unmarked : ¬ schemeMark <:+: server ++ slashes)
    (slashed : ∀ c ∈ slashes, c = '/') (endless : server.getLast? ≠ some '/') :
    Spells (server ++ slashes) ⟨none, server⟩
  | schemed {scheme server slashes : List Char}
    (first : ∀ xs ys, scheme ++ schemeMark ++ (server ++ slashes) = xs ++ schemeMark ++ ys → scheme.length ≤ xs.length)
    (slashed : ∀ c ∈ slashes, c = '/') (endless : server.getLast? ≠ some '/') :
    Spells (scheme ++ schemeMark ++ (server ++ slashes)) ⟨some scheme, server⟩

/-- Does the scheme of an address end in `ssl`? -/
def Address.WantsTls (a : Address) : Prop := ∃ scheme, a.scheme = some scheme ∧ "ssl".toList <:+ scheme

theorem Address.encrypted_iff (a : Address) : a.encrypted = true ↔ a.WantsTls := by
  unfold encrypted WantsTls
  cases a.scheme with
  | none => simp
  | some scheme => simp [List.isSuffixOf_iff_suffix]

/-- Slashes at the end are dropped, and nothing else. -/
theorem dropSlashes_append {server slashes : List Char} (slashed : ∀ c ∈ slashes, c = '/')
    (endless : server.getLast? ≠ some '/') : dropSlashes (server ++ slashes) = server := by
  have hslashes : ∀ c ∈ slashes.reverse, (c == '/') = true := fun c hc =>
    beq_iff_eq.mpr (slashed c (List.mem_reverse.mp hc))
  unfold dropSlashes
  rw [List.reverse_append, List.dropWhile_append_of_pos hslashes]
  refine List.rdropWhile_eq_self_iff.mpr fun hne hlast => endless ?_
  rw [List.getLast?_eq_getLast_of_ne_nil hne, beq_iff_eq.mp hlast]

theorem exists_dropSlashes (cs : List Char) :
    ∃ slashes, cs = dropSlashes cs ++ slashes ∧ (∀ c ∈ slashes, c = '/') ∧ (dropSlashes cs).getLast? ≠ some '/' := by
  refine ⟨(cs.reverse.takeWhile (· == '/')).reverse, ?_, ?_, ?_⟩
  · unfold dropSlashes
    rw [← List.reverse_append, List.takeWhile_append_dropWhile, List.reverse_reverse]
  · intro c hc
    exact beq_iff_eq.mp (List.mem_takeWhile_imp (p := (· == '/')) (List.mem_reverse.mp hc))
  · intro hlast
    have hne : dropSlashes cs ≠ [] := fun hnil => by
      rw [hnil] at hlast
      cases hlast
    rw [List.getLast?_eq_getLast_of_ne_nil hne] at hlast
    exact List.rdropWhile_last_not (· == '/') cs hne (beq_iff_eq.mpr (Option.some.inj hlast))

theorem schemeMark_ne_nil : schemeMark ≠ [] := by decide

/-- **An item comes to the address that it spells.** -/
theorem spells_iff {item : List Char} {a : Address} : Spells item a ↔ a = Address.ofItem item := by
  unfold Address.ofItem
  constructor
  · intro h
    cases h with
    | plain unmarked slashed endless =>
      rw [(cutAt_eq_none_iff schemeMark_ne_nil).mpr unmarked]
      exact congrArg (Address.mk none) (dropSlashes_append slashed endless).symm
    | @schemed scheme _ _ first slashed endless =>
      rw [(cutAt_eq_some_iff schemeMark_ne_nil).mpr ⟨rfl, first⟩]
      exact congrArg (Address.mk (some scheme)) (dropSlashes_append slashed endless).symm
  · rintro rfl
    cases hcut : cutAt schemeMark item with
    | none =>
      obtain ⟨slashes, hitem, slashed, endless⟩ := exists_dropSlashes item
      have unmarked := (cutAt_eq_none_iff schemeMark_ne_nil).mp hcut
      rw [hitem] at unmarked
      have hspells := Spells.plain unmarked slashed endless
      rwa [← hitem] at hspells
    | some cut =>
      obtain ⟨scheme, rest⟩ := cut
      obtain ⟨rfl, first⟩ := (cutAt_eq_some_iff schemeMark_ne_nil).mp hcut
      obtain ⟨slashes, hrest, slashed, endless⟩ := exists_dropSlashes rest
      rw [hrest] at first
      have hspells := Spells.schemed first slashed endless
      rwa [← hrest] at hspells

/-- The addresses of a list are what its items spell, and nothing else is. -/
theorem forall₂_spells_iff {items : List (List Char)} {as : List Address} :
    List.Forall₂ Spells items as ↔ as = items.map Address.ofItem := by
  have hspells : Spells = fun item a => Address.ofItem item = a :=
    funext₂ fun item a => propext (spells_iff.trans eq_comm)
  have hmap := List.forall₂_map_left_iff (R := Eq) (f := Address.ofItem) (l := items) (u := as)
  rw [List.forall₂_eq_eq_eq] at hmap
  rw [hspells, ← hmap, eq_comm]

/-- A server has no gap in it, since its item has none. -/
theorem Spells.apart {item : List Char} {a : Address} (h : Spells item a) (hitem : ∀ c ∈ item, isGap c = false) :
    ∀ c ∈ a.server, isGap c = false := by
  intro c hc
  refine hitem c ?_
  cases h with
  | plain => exact List.mem_append_left _ hc
  | schemed => exact List.mem_append_right _ (List.mem_append_left _ hc)

theorem Spells.endless {item : List Char} {a : Address} (h : Spells item a) : a.server.getLast? ≠ some '/' := by
  cases h with
  | plain _ _ endless => exact endless
  | schemed _ _ endless => exact endless

/-! ## Entries -/

theorem joinCommas_eq_intercalate (parts : List (List Char)) : joinCommas parts = [','].intercalate parts := by
  fun_induction joinCommas parts with
  | case1 => rfl
  | case2 part => rw [List.intercalate_singleton]
  | case3 part parts hparts ih =>
    obtain ⟨next, parts, rfl⟩ := List.exists_cons_of_ne_nil hparts
    rw [List.intercalate_cons_cons, ← ih, List.append_assoc]
    rfl

/-- **The entries of a list of servers**: what stands between its commas. -/
def entriesOf (servers : String) : List (List Char) := if servers = "" then [] else servers.toList.splitOn ','

/-- Entries are read back from the list of servers, unless the only one is empty. -/
theorem entriesOf_intercalate {parts : List (List Char)} (h : ∀ part ∈ parts, ',' ∉ part) :
    entriesOf (String.ofList ([','].intercalate parts)) = if parts = [[]] then [] else parts := by
  have hempty : String.ofList ([','].intercalate parts) = "" ↔ parts = [] ∨ parts = [[]] := by
    rw [← String.toList_inj, String.toList_ofList]
    rcases parts with _ | ⟨part, _ | ⟨next, parts⟩⟩
    · simp
    · simp
    · simp [List.intercalate_cons_cons]
  unfold entriesOf
  by_cases honly : parts = [[]]
  · rw [if_pos (hempty.mpr (Or.inr honly)), if_pos honly]
  · by_cases hnil : parts = []
    · rw [if_pos (hempty.mpr (Or.inl hnil)), if_neg honly, hnil]
    · rw [if_neg (fun heq => (hempty.mp heq).elim hnil honly), if_neg honly, String.toList_ofList,
        List.splitOn_intercalate ',' h hnil]

/-! ## Order -/

/-- **A server**: not empty, with neither commas nor blanks nor a scheme mark in it, and with no slash at its end. -/
structure IsServer (entry : List Char) : Prop where
  ne_nil : entry ≠ []
  apart : ∀ c ∈ entry, isGap c = false
  unmarked : ¬ schemeMark <:+: entry
  endless : entry.getLast? ≠ some '/'

/-- **A list in order**: its entries are servers, one for each item that names one, in the order of the items, and it
    asks for encryption exactly if an item that names a server does. -/
structure Orderly (as : List Address) (result : String × Bool) : Prop where
  entries : entriesOf result.1 = (as.map (·.server)).filter (· ≠ [])
  servers : ∀ entry ∈ entriesOf result.1, IsServer entry
  tls : result.2 = true ↔ ∃ a ∈ as, a.server ≠ [] ∧ a.WantsTls

/-- A list that keeps every server, and heeds every scheme, is in order if there is a server in each place. -/
theorem orderly_iff {as : List Address} {result : String × Bool}
    (htext : result.1 = String.ofList ([','].intercalate (as.map (·.server))))
    (htls : result.2 = true ↔ ∃ a ∈ as, a.WantsTls) (apart : ∀ a ∈ as, ∀ c ∈ a.server, isGap c = false)
    (endless : ∀ a ∈ as, a.server.getLast? ≠ some '/') :
    Orderly as result
      ↔ (∀ a ∈ as, ¬ schemeMark <:+: a.server) ∧ ((∀ a ∈ as, a.server ≠ []) ∨ ∃ a, as = [a] ∧ ¬ a.WantsTls) := by
  have hentries : entriesOf result.1 = if as.map (·.server) = [[]] then [] else as.map (·.server) := by
    rw [htext, entriesOf_intercalate]
    intro part hpart hcomma
    obtain ⟨a, ha, rfl⟩ := List.mem_map.mp hpart
    cases apart a ha _ hcomma
  by_cases honly : as.map (·.server) = [[]]
  · -- One item without a server: the text is empty, and only the scheme can be too much.
    rw [if_pos honly] at hentries
    obtain ⟨a, rfl, hserver⟩ := List.map_eq_singleton_iff.mp honly
    have hunmarked : ¬ schemeMark <:+: a.server := by rw [hserver]; decide
    constructor
    · intro h
      refine ⟨List.forall_mem_singleton.mpr hunmarked, Or.inr ⟨a, rfl, fun hwants => ?_⟩⟩
      obtain ⟨b, hb, hne, -⟩ := h.tls.mp (htls.mpr ⟨a, List.mem_singleton_self a, hwants⟩)
      cases List.mem_singleton.mp hb
      exact hne hserver
    · rintro ⟨-, hall | ⟨b, hb, hwants⟩⟩
      · exact absurd hserver (hall a (List.mem_singleton_self a))
      · cases hb
        refine ⟨by rw [hentries, honly]; rfl, by rw [hentries]; exact List.forall_mem_nil _, ?_⟩
        rw [htls]
        simp [hserver, hwants]
  · rw [if_neg honly] at hentries
    constructor
    · intro h
      have hkept := h.entries
      rw [hentries, eq_comm, List.filter_eq_self] at hkept
      refine ⟨fun a ha => (h.servers a.server ?_).unmarked, Or.inl fun a ha => ?_⟩
      · exact hentries ▸ List.mem_map_of_mem ha
      · exact of_decide_eq_true (hkept _ (List.mem_map_of_mem ha))
    · rintro ⟨hunmarked, hnamed⟩
      have hall : ∀ a ∈ as, a.server ≠ [] := by
        rcases hnamed with hall | ⟨a, rfl, -⟩
        · exact hall
        · exact List.forall_mem_singleton.mpr fun hserver => honly (congrArg (fun server => [server]) hserver)
      refine ⟨?_, ?_, ?_⟩
      · rw [hentries, eq_comm, List.filter_eq_self]
        exact List.forall_mem_map.mpr fun a ha => decide_eq_true (hall a ha)
      · rw [hentries]
        exact List.forall_mem_map.mpr fun a ha => ⟨hall a ha, apart a ha, hunmarked a ha, endless a ha⟩
      · exact htls.trans (exists_congr fun a => and_congr_right fun ha => (and_iff_right (hall a ha)).symm)

/-- **What an address list comes to**: every item spells one address; the servers of them all are joined by commas, the
    empty ones too, and encryption is asked for as soon as one of the schemes asks for it. The list is in order exactly
    if no item had a second scheme and each names a server, or if the only item names none and wants no encryption. -/
theorem serversOf_orderly_iff (url : String) :
    ∃ as, (∀ bs, List.Forall₂ Spells ((url.toList.splitOnP isGap).filter (· ≠ [])) bs ↔ bs = as)
      ∧ (serversOf url).1 = String.ofList ([','].intercalate (as.map (·.server)))
      ∧ ((serversOf url).2 = true ↔ ∃ a ∈ as, a.WantsTls)
      ∧ (∀ a ∈ as, (∀ c ∈ a.server, isGap c = false) ∧ a.server.getLast? ≠ some '/')
      ∧ (Orderly as (serversOf url)
        ↔ (∀ a ∈ as, ¬ schemeMark <:+: a.server)
          ∧ ((∀ a ∈ as, a.server ≠ []) ∨ ∃ a, as = [a] ∧ ¬ a.WantsTls)) := by
  rw [← items_eq]
  have htext : (serversOf url).1
      = String.ofList ([','].intercalate (((items url).map Address.ofItem).map (·.server))) :=
    congrArg String.ofList (joinCommas_eq_intercalate _)
  have htls : (serversOf url).2 = true ↔ ∃ a ∈ (items url).map Address.ofItem, a.WantsTls :=
    List.any_eq_true.trans (exists_congr fun a => and_congr_right fun _ => a.encrypted_iff)
  have hserver : ∀ a ∈ (items url).map Address.ofItem,
      (∀ c ∈ a.server, isGap c = false) ∧ a.server.getLast? ≠ some '/' :=
    List.forall_mem_map.mpr fun item hitem =>
      have hspells : Spells item (Address.ofItem item) := spells_iff.mpr rfl
      ⟨hspells.apart (isGap_of_mem_items hitem), hspells.endless⟩
  exact ⟨_, fun _ => forall₂_spells_iff, htext, htls, hserver,
    orderly_iff htext htls (fun a ha => (hserver a ha).1) fun a ha => (hserver a ha).2⟩

/-- A scheme with nothing behind it leaves an empty entry, and asks for the encryption of a server that has none. -/
theorem serversOf_keeps_empty_server :
    serversOf "kafka+ssl://,b:9092" = (",b:9092", true)
      ∧ entriesOf ",b:9092" = [[], "b:9092".toList]
      ∧ ∀ as, ¬ Orderly as (serversOf "kafka+ssl://,b:9092") := by
  have hresult : serversOf "kafka+ssl://,b:9092" = (",b:9092", true) := by decide
  have hentries : entriesOf ",b:9092" = [[], "b:9092".toList] := by decide
  refine ⟨hresult, hentries, fun as h => ?_⟩
  have hempty : [] ∈ entriesOf (serversOf "kafka+ssl://,b:9092").1 := by
    rw [hresult, hentries]
    exact List.mem_cons_self
  exact (h.servers [] hempty).ne_nil rfl

end Connection

end TopicReader
