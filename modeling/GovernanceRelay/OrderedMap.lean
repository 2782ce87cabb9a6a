/-!
# Finite maps in key order

A finite map keeps its entries in strictly increasing order of a rank that tells keys apart, so two
maps with the same lookups are the same map (`OrderedMap.ext_find?`) and listing a map is listing
its entries in key order. A set is a map into the one-element type. Each operation is described by
what it does to lookups (`find?_insert`, `find?_erase`).
-/

set_option autoImplicit false

namespace GovernanceRelay

/-- Keys that are told apart by a number, which also orders them. -/
class Ranked (κ : Type) where
  /-- The number of a key. -/
  rank : κ → Nat
  /-- Keys of one rank are one key. -/
  rank_injective : ∀ left right : κ, rank left = rank right → left = right

export Ranked (rank)

instance : Ranked UInt64 where
  rank := UInt64.toNat
  rank_injective _ _ := UInt64.toNat_inj.mp

/-- A finite map whose entries stand in strictly increasing key order. -/
structure OrderedMap (κ ν : Type) [Ranked κ] where
  /-- The entries, each key once. -/
  entries : List (κ × ν)
  /-- Keys strictly increase along the entries. -/
  sorted : entries.Pairwise fun left right => rank left.1 < rank right.1

/-- A finite set is a map that gives every member the one value there is. -/
abbrev OrderedSet (κ : Type) [Ranked κ] := OrderedMap κ Unit

namespace OrderedMap

variable {κ ν : Type} [Ranked κ]

instance [DecidableEq κ] [DecidableEq ν] : DecidableEq (OrderedMap κ ν) := fun left right =>
  if h : left.entries = right.entries then
    isTrue (by cases left; cases right; cases h; rfl)
  else
    isFalse fun heq => h (congrArg entries heq)

/-- The map without entries. -/
def empty : OrderedMap κ ν := ⟨[], .nil⟩

instance : EmptyCollection (OrderedMap κ ν) := ⟨empty⟩

instance : Inhabited (OrderedMap κ ν) := ⟨empty⟩

/-- The value of a key among entries in order. -/
def lookup (key : κ) : List (κ × ν) → Option ν
  | [] => none
  | entry :: rest => if rank key = rank entry.1 then some entry.2 else lookup key rest

/-- Put a key with its value in its place, replacing an earlier value. -/
def place (key : κ) (value : ν) : List (κ × ν) → List (κ × ν)
  | [] => [(key, value)]
  | entry :: rest =>
    if rank key < rank entry.1 then (key, value) :: entry :: rest
    else if rank key = rank entry.1 then (key, value) :: rest
    else entry :: place key value rest

/-- Drop the entry of a key. -/
def remove (key : κ) (entries : List (κ × ν)) : List (κ × ν) :=
  entries.filter fun entry => rank entry.1 != rank key

theorem mem_place {key : κ} {value : ν} {entry : κ × ν} {entries : List (κ × ν)} :
    entry ∈ place key value entries → entry = (key, value) ∨ entry ∈ entries := by
  induction entries with
  | nil => simp [place]
  | cons head rest ih =>
    rw [place]
    split
    · simp
    · split <;> grind

theorem sorted_place (key : κ) (value : ν) {entries : List (κ × ν)}
    (sorted : entries.Pairwise fun left right => rank left.1 < rank right.1) :
    (place key value entries).Pairwise fun left right => rank left.1 < rank right.1 := by
  induction entries with
  | nil => simp [place]
  | cons head rest ih =>
    obtain ⟨hhead, hrest⟩ := List.pairwise_cons.mp sorted
    rw [place]
    split
    · rename_i hlt
      refine List.pairwise_cons.mpr ⟨fun entry hmem => ?_, sorted⟩
      rcases List.mem_cons.mp hmem with rfl | hmem
      · exact hlt
      · exact Nat.lt_trans hlt (hhead entry hmem)
    · split
      · rename_i _ heq
        exact List.pairwise_cons.mpr ⟨fun entry hmem => heq ▸ hhead entry hmem, hrest⟩
      · rename_i hnlt hne
        refine List.pairwise_cons.mpr ⟨fun entry hmem => ?_, ih hrest⟩
        rcases mem_place hmem with rfl | hmem
        · show rank head.1 < rank key
          omega
        · exact hhead entry hmem

/-- The map with one more entry; an earlier value of the key is replaced. -/
def insert (map : OrderedMap κ ν) (key : κ) (value : ν) : OrderedMap κ ν :=
  ⟨place key value map.entries, sorted_place key value map.sorted⟩

/-- The map without a key. -/
def erase (map : OrderedMap κ ν) (key : κ) : OrderedMap κ ν :=
  ⟨remove key map.entries, map.sorted.filter _⟩

/-- The value of a key, if it has one. -/
def find? (map : OrderedMap κ ν) (key : κ) : Option ν := lookup key map.entries

/-- Whether a key has a value. -/
def contains (map : OrderedMap κ ν) (key : κ) : Bool := (map.find? key).isSome

/-- The keys in order. -/
def keys (map : OrderedMap κ ν) : List κ := map.entries.map (·.1)

/-- The number of entries. -/
def size (map : OrderedMap κ ν) : Nat := map.entries.length

/-- Whether there is no entry. -/
def isEmpty (map : OrderedMap κ ν) : Bool := map.entries.isEmpty

/-- The map of a list of entries, later entries of a key winning. -/
def ofList (entries : List (κ × ν)) : OrderedMap κ ν :=
  entries.foldl (fun map entry => map.insert entry.1 entry.2) empty

@[simp] theorem find?_empty (key : κ) : (empty : OrderedMap κ ν).find? key = none := rfl

theorem lookup_place (key other : κ) (value : ν) (entries : List (κ × ν)) :
    lookup other (place key value entries)
      = if rank other = rank key then some value else lookup other entries := by
  induction entries with
  | nil => simp [place, lookup]
  | cons head rest ih =>
    rw [place]
    split
    · simp [lookup]
    · split
      · simp only [lookup]
        grind
      · simp only [lookup, ih]
        grind

theorem lookup_remove (key other : κ) (entries : List (κ × ν)) :
    lookup other (remove key entries)
      = if rank other = rank key then none else lookup other entries := by
  induction entries with
  | nil => simp [remove, lookup]
  | cons head rest ih =>
    simp only [remove, List.filter_cons] at ih ⊢
    split
    · simp only [lookup, ih]
      grind
    · simp only [lookup, ih]
      grind

/-- After an insertion the key has the new value and every other key keeps its own. -/
theorem find?_insert [DecidableEq κ] (map : OrderedMap κ ν) (key other : κ) (value : ν) :
    (map.insert key value).find? other = if other = key then some value else map.find? other := by
  rw [find?, insert, lookup_place]
  by_cases h : other = key
  · simp [h]
  · rw [if_neg h, if_neg fun heq => h (Ranked.rank_injective _ _ heq), find?]

/-- After a removal the key has no value and every other key keeps its own. -/
theorem find?_erase [DecidableEq κ] (map : OrderedMap κ ν) (key other : κ) :
    (map.erase key).find? other = if other = key then none else map.find? other := by
  rw [find?, erase, lookup_remove]
  by_cases h : other = key
  · simp [h]
  · rw [if_neg h, if_neg fun heq => h (Ranked.rank_injective _ _ heq), find?]

theorem lookup_eq_none_of_lt {key : κ} {entries : List (κ × ν)}
    (below : ∀ entry ∈ entries, rank key < rank entry.1) : lookup key entries = none := by
  induction entries with
  | nil => rfl
  | cons head rest ih =>
    have hhead := below head List.mem_cons_self
    rw [lookup, if_neg (by omega), ih fun entry hmem => below entry (List.mem_cons_of_mem _ hmem)]

/-- Entries in order are determined by their lookups. -/
theorem entries_eq_of_lookup_eq {left right : List (κ × ν)}
    (sorted_left : left.Pairwise fun a b => rank a.1 < rank b.1)
    (sorted_right : right.Pairwise fun a b => rank a.1 < rank b.1)
    (same : ∀ key, lookup key left = lookup key right) : left = right := by
  induction left generalizing right with
  | nil =>
    cases right with
    | nil => rfl
    | cons head rest => simpa [lookup] using same head.1
  | cons lhead lrest ih =>
    cases right with
    | nil => simpa [lookup] using same lhead.1
    | cons rhead rrest =>
      obtain ⟨hl, hls⟩ := List.pairwise_cons.mp sorted_left
      obtain ⟨hr, hrs⟩ := List.pairwise_cons.mp sorted_right
      have hrank : rank lhead.1 = rank rhead.1 := by
        rcases Nat.lt_trichotomy (rank lhead.1) (rank rhead.1) with hlt | heq | hgt
        · have hnone : lookup lhead.1 (rhead :: rrest) = none :=
            lookup_eq_none_of_lt fun entry hmem => by
              rcases List.mem_cons.mp hmem with rfl | hmem
              · exact hlt
              · exact Nat.lt_trans hlt (hr entry hmem)
          have hsame := same lhead.1
          rw [hnone] at hsame
          simp [lookup] at hsame
        · exact heq
        · have hnone : lookup rhead.1 (lhead :: lrest) = none :=
            lookup_eq_none_of_lt fun entry hmem => by
              rcases List.mem_cons.mp hmem with rfl | hmem
              · exact hgt
              · exact Nat.lt_trans hgt (hl entry hmem)
          have hsame := same rhead.1
          rw [hnone] at hsame
          simp [lookup] at hsame
      have hkey := Ranked.rank_injective _ _ hrank
      have hvalue : lhead.2 = rhead.2 := by
        have hsame := same lhead.1
        simpa [lookup, hrank] using hsame
      have hrest : lrest = rrest := by
        refine ih hls hrs fun key => ?_
        by_cases hk : rank key = rank lhead.1
        · rw [lookup_eq_none_of_lt fun entry hmem => hk ▸ hl entry hmem,
            lookup_eq_none_of_lt fun entry hmem => (hk.trans hrank) ▸ hr entry hmem]
        · have hsame := same key
          rwa [lookup, lookup, if_neg hk, if_neg (hrank ▸ hk)] at hsame
      rw [hrest, Prod.ext hkey hvalue]

/-- Maps with the same lookups are equal. -/
theorem ext_find? {left right : OrderedMap κ ν}
    (same : ∀ key, left.find? key = right.find? key) : left = right := by
  have hentries := entries_eq_of_lookup_eq left.sorted right.sorted same
  cases left; cases right; cases hentries; rfl

end OrderedMap

namespace OrderedSet

variable {κ : Type} [Ranked κ]

/-- The set with one more member. -/
def add (set : OrderedSet κ) (key : κ) : OrderedSet κ := set.insert key ()

/-- The set of the members of a list. -/
def ofList (keys : List κ) : OrderedSet κ := keys.foldl add OrderedMap.empty

end OrderedSet

end GovernanceRelay
