import GovernanceRelay.OrderedMap

/-!
# Maps from lists of entries

Entries that stand in key order are put at the end one after the other, so the map of them has just
these entries. A map is therefore the map of its own entries (`OrderedMap.ofList_entries`) and a set
the set of its keys (`OrderedSet.ofList_keys`). A key has a value exactly when the map has the entry
(`OrderedMap.find?_eq_some_iff`), and sets with the same members are equal
(`OrderedSet.ext_contains`). Of several values that are put in for a key the last stays
(`OrderedMap.find?_foldl_insert`).
-/

set_option autoImplicit false

namespace GovernanceRelay

/-- The value that the last item of a key gives it. -/
def lastValue? {α κ ν : Type} [DecidableEq κ] (key : α → κ) (value : α → ν) (items : List α)
    (wanted : κ) : Option ν :=
  (items.reverse.find? fun item => key item = wanted).map value

theorem lastValue?_cons {α κ ν : Type} [DecidableEq κ] (key : α → κ) (value : α → ν) (item : α)
    (rest : List α) (wanted : κ) :
    lastValue? key value (item :: rest) wanted =
      (lastValue? key value rest wanted).or
        (if key item = wanted then some (value item) else none) := by
  rw [lastValue?, List.reverse_cons, List.find?_append, Option.map_or, lastValue?]
  by_cases hkey : key item = wanted
  · simp [hkey]
  · simp [hkey]

namespace OrderedMap

variable {κ ν : Type} [Ranked κ]

/-- A key above all keys has its place at the end. -/
theorem place_of_above {key : κ} (value : ν) {entries : List (κ × ν)}
    (above : ∀ entry ∈ entries, rank entry.1 < rank key) :
    place key value entries = entries ++ [(key, value)] := by
  induction entries with
  | nil => rfl
  | cons head rest ih =>
    have hhead := above head List.mem_cons_self
    rw [place, if_neg (by omega), if_neg (by omega),
      ih fun entry hmem => above entry (List.mem_cons_of_mem _ hmem), List.cons_append]

/-- Entries that continue a map in key order are appended to it. -/
theorem entries_foldl_insert (map : OrderedMap κ ν) (more : List (κ × ν))
    (sorted : (map.entries ++ more).Pairwise fun left right => rank left.1 < rank right.1) :
    (more.foldl (fun map entry => map.insert entry.1 entry.2) map).entries =
      map.entries ++ more := by
  induction more generalizing map with
  | nil => exact (List.append_nil _).symm
  | cons entry rest ih =>
    have hplace : (map.insert entry.1 entry.2).entries = map.entries ++ [entry] := by
      refine place_of_above entry.2 fun earlier hmem => ?_
      exact (List.pairwise_append.mp sorted).2.2 earlier hmem entry List.mem_cons_self
    rw [List.foldl_cons, ih, hplace, List.append_assoc, List.singleton_append]
    rwa [hplace, List.append_assoc, List.singleton_append]

theorem entries_ofList {entries : List (κ × ν)}
    (sorted : entries.Pairwise fun left right => rank left.1 < rank right.1) :
    (ofList entries).entries = entries :=
  entries_foldl_insert empty entries sorted

/-- A map is the map of its entries. -/
theorem ofList_entries (map : OrderedMap κ ν) : ofList map.entries = map := by
  have hentries := entries_ofList map.sorted
  generalize ofList map.entries = rebuilt at hentries
  cases map
  cases rebuilt
  cases hentries
  rfl

/-- The keys of a list of entries become keys of the map. -/
theorem contains_foldl_insert_iff [DecidableEq κ] (map : OrderedMap κ ν) (entries : List (κ × ν))
    (key : κ) :
    (entries.foldl (fun map entry => map.insert entry.1 entry.2) map).contains key = true ↔
      (∃ entry ∈ entries, entry.1 = key) ∨ map.contains key = true := by
  induction entries generalizing map with
  | nil => simp
  | cons entry rest ih =>
    rw [List.foldl_cons, ih, contains, contains, find?_insert]
    by_cases hkey : key = entry.1
    · simp [hkey]
    · simp [hkey, Ne.symm hkey]

/-- Of several values that are put in for a key the last stays. -/
theorem find?_foldl_insert {α : Type} [DecidableEq κ] (key : α → κ) (value : α → ν)
    (map : OrderedMap κ ν) (items : List α) (wanted : κ) :
    (items.foldl (fun map item => map.insert (key item) (value item)) map).find? wanted =
      (lastValue? key value items wanted).or (map.find? wanted) := by
  induction items generalizing map with
  | nil => rfl
  | cons item rest ih =>
    rw [List.foldl_cons, ih, lastValue?_cons, find?_insert, Option.or_assoc]
    by_cases hkey : key item = wanted
    · simp [hkey]
    · simp [hkey, Ne.symm hkey]

/-- The map of a list of entries has just their keys. -/
theorem contains_ofList_iff [DecidableEq κ] (entries : List (κ × ν)) (key : κ) :
    (ofList entries).contains key = true ↔ ∃ entry ∈ entries, entry.1 = key := by
  rw [ofList, contains_foldl_insert_iff]
  exact or_iff_left (fun h => by cases h)

theorem lookup_eq_some_iff {key : κ} {value : ν} {entries : List (κ × ν)}
    (sorted : entries.Pairwise fun left right => rank left.1 < rank right.1) :
    lookup key entries = some value ↔ (key, value) ∈ entries := by
  induction entries with
  | nil => simp [lookup]
  | cons head rest ih =>
    obtain ⟨hhead, hrest⟩ := List.pairwise_cons.mp sorted
    rw [lookup, List.mem_cons]
    by_cases hkey : rank key = rank head.1
    · obtain rfl := Ranked.rank_injective _ _ hkey
      have habsent : (head.1, value) ∉ rest := fun hmem =>
        Nat.lt_irrefl _ (hhead (head.1, value) hmem)
      simp [habsent, Prod.ext_iff, eq_comm]
    · have hne : (key, value) ≠ head := fun heq => hkey (congrArg (fun entry => rank entry.1) heq)
      rw [if_neg hkey, ih hrest, or_iff_right hne]

/-- A key has a value exactly when the two are an entry. -/
theorem find?_eq_some_iff (map : OrderedMap κ ν) (key : κ) (value : ν) :
    map.find? key = some value ↔ (key, value) ∈ map.entries :=
  lookup_eq_some_iff map.sorted

theorem mem_keys_iff (map : OrderedMap κ ν) (key : κ) :
    key ∈ map.keys ↔ map.contains key = true := by
  simp [keys, contains, Option.isSome_iff_exists, find?_eq_some_iff]

theorem nodup_keys (map : OrderedMap κ ν) : map.keys.Nodup := by
  rw [keys, List.Nodup, List.pairwise_map]
  apply map.sorted.imp
  intro earlier later hlt heq
  rw [heq] at hlt
  exact Nat.lt_irrefl _ hlt

/-- A map has an entry exactly when some key has a value. -/
theorem size_pos_iff (map : OrderedMap κ ν) : 0 < map.size ↔ ∃ key, map.contains key = true := by
  rw [size, List.length_pos_iff_exists_mem]
  constructor
  · rintro ⟨entry, hmem⟩
    exact ⟨entry.1, by rw [contains, (map.find?_eq_some_iff entry.1 entry.2).mpr hmem]; rfl⟩
  · rintro ⟨key, hkey⟩
    obtain ⟨value, hvalue⟩ := Option.isSome_iff_exists.mp hkey
    exact ⟨(key, value), (map.find?_eq_some_iff key value).mp hvalue⟩

end OrderedMap

/-- A set is the set of its keys. -/
theorem OrderedSet.ofList_keys {κ : Type} [Ranked κ] (set : OrderedSet κ) :
    OrderedSet.ofList set.keys = set := by
  rw [OrderedSet.ofList, OrderedMap.keys, List.foldl_map]
  exact OrderedMap.ofList_entries set

/-- Sets with the same members are equal. -/
theorem OrderedSet.ext_contains {κ : Type} [Ranked κ] {left right : OrderedSet κ}
    (same : ∀ key, left.contains key = right.contains key) : left = right := by
  refine OrderedMap.ext_find? fun key => ?_
  have hkey := same key
  rw [OrderedMap.contains, OrderedMap.contains] at hkey
  cases hleft : left.find? key <;> cases hright : right.find? key <;> simp [hleft, hright] at hkey ⊢

end GovernanceRelay
