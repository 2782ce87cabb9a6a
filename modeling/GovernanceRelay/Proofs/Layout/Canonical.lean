import GovernanceRelay.Layout

/-!
# Canonical layouts

A layout is canonical if the bytes from which it reads a value are those of a value that has a
written form, with whatever stands behind it (`Layout.Canonical`). The layouts of numbers and
identifiers are canonical, and those of lists, records and optional values are if the layouts of
their parts are. In a canonical layout the bytes that are a value are those that are written for it
(`Layout.Canonical.readAll_eq_ok_iff`), and no written form continues another one
(`Layout.Canonical.eq_of_isPrefix`), so bytes that lack something at the end of a written form or
have something behind it are refused (`Layout.Canonical.readAll_eq_error`).
-/

set_option autoImplicit false

namespace GovernanceRelay

namespace Bytes

/-- The reversed bytes too are the writing of their value. -/
theorem littleEndian_littleValue (bytes : Bytes) :
    littleEndian bytes.length (littleValue bytes) = bytes := by
  rw [littleEndian, littleValue, ← List.length_reverse, bigEndian_value, List.reverse_reverse]

theorem littleValue_lt (bytes : Bytes) : littleValue bytes < Nat.pow 256 bytes.length := by
  rw [← List.length_reverse]
  exact value_lt bytes.reverse

end Bytes

/-- A role that is found at a position has it. -/
theorem Role.position_of_ofPosition? {position : Nat} {role : Role}
    (h : ofPosition? position = some role) : role.position = position := by
  obtain ⟨hlt, rfl⟩ := List.getElem?_eq_some_iff.mp h
  have hsmall : position < 4 := hlt
  match position, hsmall with
  | 0, _ => rfl
  | 1, _ => rfl
  | 2, _ => rfl
  | 3, _ => rfl

namespace Layout

variable {α β : Type}

/-- A value is read exactly where it has a written form and this stands at the front. -/
def Canonical (layout : Layout α) : Prop :=
  ∀ bytes value rest, layout.read bytes = .ok (value, rest) ↔
    layout.fits value = true ∧ bytes = layout.write value ++ rest

/-! ## Numbers and identifiers -/

theorem canonical_byte : byte.Canonical := by
  intro bytes value rest
  cases bytes with
  | nil => simp [byte]
  | cons head tail => simp [byte]

theorem canonical_number (width : Nat) : (number width).Canonical := by
  intro bytes value rest
  constructor
  · intro h
    simp only [number] at h
    split at h
    · cases h
    · rename_i henough
      cases h
      -- enough bytes were there, so that many were taken
      have hlength : (bytes.take width).length = width := by
        rw [List.length_take] at henough ⊢
        omega
      refine ⟨decide_eq_true ?_, ?_⟩
      · have hlt := Bytes.littleValue_lt (bytes.take width)
        rwa [hlength] at hlt
      · have hwritten := Bytes.littleEndian_littleValue (bytes.take width)
        rw [hlength] at hwritten
        exact (hwritten.symm ▸ List.take_append_drop width bytes).symm
  · rintro ⟨hfits, rfl⟩
    have hlength := Bytes.length_littleEndian width value
    have htake : (Bytes.littleEndian width value ++ rest).take width =
        Bytes.littleEndian width value := List.take_left' hlength
    have hdrop : (Bytes.littleEndian width value ++ rest).drop width = rest :=
      List.drop_left' hlength
    simp only [number, htake, hdrop, hlength, Nat.lt_irrefl, if_false]
    rw [Bytes.littleValue_littleEndian (of_decide_eq_true hfits)]

theorem canonical_identifier (length : Nat) : (identifier length).Canonical := by
  intro bytes value rest
  constructor
  · intro h
    simp only [identifier] at h
    split at h
    · rename_i split hsplit
      cases h
      exact ⟨rfl, FixedBytes.append_of_split? hsplit⟩
    · cases h
  · rintro ⟨-, rfl⟩
    simp only [identifier, FixedBytes.split?_append]

/-! ## Values that stand for others -/

/-- A layout stays canonical if each value that it can read stands for at most one value, and that
one is represented by it. -/
theorem Canonical.map {layout : Layout α} (canonical : layout.Canonical) {represent : β → α}
    {interpret : α → Except LayoutError β}
    (inverse : ∀ raw value, layout.fits raw = true →
      (interpret raw = .ok value ↔ raw = represent value)) :
    (layout.map represent interpret).Canonical := by
  intro bytes value rest
  constructor
  · intro h
    simp only [Layout.map] at h
    split at h
    · cases h
    · rename_i raw behind hread
      obtain ⟨hfits, hbytes⟩ := (canonical bytes raw behind).mp hread
      split at h
      · cases h
      · rename_i hfound
        cases h
        obtain rfl := (inverse raw value hfits).mp hfound
        exact ⟨hfits, hbytes⟩
  · rintro ⟨hfits, hbytes⟩
    have hread := (canonical bytes (represent value) rest).mpr ⟨hfits, hbytes⟩
    have hvalue := (inverse (represent value) value hfits).mpr rfl
    simp only [Layout.map, hread, hvalue]

theorem canonical_word : word.Canonical := by
  refine (canonical_number 8).map fun raw value hfits => ?_
  have hlt : raw < 18446744073709551616 := of_decide_eq_true hfits
  rw [Except.ok.injEq, ← UInt64.toNat_inj, UInt64.toNat_ofNat', Nat.mod_eq_of_lt hlt]

theorem canonical_bool : bool.Canonical := by
  refine canonical_byte.map fun raw value _ => ?_
  by_cases hzero : raw = 0
  · cases value <;> simp [hzero]
  · by_cases hone : raw = 1
    · cases value <;> simp [hone]
    · cases value <;> simp [hzero, hone]

theorem canonical_role : role.Canonical := by
  refine canonical_byte.map fun raw value _ => ?_
  constructor
  · intro h
    split at h
    · rename_i found hfound
      cases h
      rw [Role.position_of_ofPosition? hfound, UInt8.ofNat_toNat]
    · cases h
  · rintro rfl
    cases value <;> rfl

/-! ## Values made of others -/

theorem Canonical.pair {first : Layout α} {second : Layout β} (hfirst : first.Canonical)
    (hsecond : second.Canonical) : (first.pair second).Canonical := by
  intro bytes value rest
  obtain ⟨left, right⟩ := value
  constructor
  · intro h
    simp only [Layout.pair] at h
    split at h
    · cases h
    · rename_i front middle hleft
      obtain ⟨hleftFits, hbytes⟩ := (hfirst bytes front middle).mp hleft
      split at h
      · cases h
      · rename_i back behind hright
        cases h
        obtain ⟨hrightFits, hmiddle⟩ := (hsecond middle right rest).mp hright
        subst hbytes hmiddle
        exact ⟨by simp only [Layout.pair, hleftFits, hrightFits, Bool.and_self],
          (List.append_assoc _ _ _).symm⟩
  · rintro ⟨hfits, rfl⟩
    obtain ⟨hleftFits, hrightFits⟩ := Bool.and_eq_true_iff.mp hfits
    have hleft := (hfirst _ left (second.write right ++ rest)).mpr ⟨hleftFits, rfl⟩
    have hright := (hsecond _ right rest).mpr ⟨hrightFits, rfl⟩
    simp only [Layout.pair, List.append_assoc, hleft, hright]

theorem Canonical.option {layout : Layout α} (canonical : layout.Canonical) :
    layout.option.Canonical := by
  intro bytes value rest
  constructor
  · intro h
    cases bytes with
    | nil => cases h
    | cons tag tail =>
      simp only [Layout.option] at h
      split at h
      · rename_i htag
        cases h
        exact ⟨rfl, htag ▸ rfl⟩
      · split at h
        · rename_i htag
          split at h
          · cases h
          · rename_i found behind hread
            cases h
            obtain ⟨hfits, htail⟩ := (canonical tail found rest).mp hread
            subst htag htail
            exact ⟨hfits, rfl⟩
        · cases h
  · rintro ⟨hfits, rfl⟩
    cases value with
    | none => rfl
    | some value =>
      have hread := (canonical _ value rest).mpr ⟨hfits, rfl⟩
      simp [Layout.option, hread]

/-- A stated number of values is read exactly where their written forms stand one after the other,
and they are put behind those already read. -/
theorem Canonical.readMany_eq_ok_iff {layout : Layout α} (canonical : layout.Canonical)
    (count : Nat) (seen : List α) (bytes : Bytes) (values : List α) (rest : Bytes) :
    layout.readMany count seen bytes = .ok (values, rest) ↔
      ∃ more, more.length = count ∧ values = seen.reverse ++ more ∧
        more.all layout.fits = true ∧ bytes = more.flatMap layout.write ++ rest := by
  -- what was read is kept in reverse while the count goes down
  induction count generalizing seen bytes with
  | zero =>
    rw [readMany]
    constructor
    · intro h
      cases h
      exact ⟨[], rfl, (List.append_nil _).symm, rfl, rfl⟩
    · rintro ⟨more, hlength, rfl, -, rfl⟩
      rw [List.length_eq_zero_iff.mp hlength, List.append_nil]
      rfl
  | succ count ih =>
    rw [readMany]
    constructor
    · intro h
      split at h
      · cases h
      · rename_i value behind hread
        obtain ⟨hfits, hbytes⟩ := (canonical bytes value behind).mp hread
        obtain ⟨more, hlength, hvalues, hmore, hbehind⟩ := (ih (value :: seen) behind).mp h
        refine ⟨value :: more, by rw [List.length_cons, hlength], ?_, ?_, ?_⟩
        · rw [hvalues, List.reverse_cons, List.append_assoc, List.singleton_append]
        · rw [List.all_cons, hfits, hmore]
          rfl
        · rw [hbytes, hbehind, List.flatMap_cons, List.append_assoc]
    · rintro ⟨more, hlength, rfl, hmore, rfl⟩
      cases more with
      | nil => cases hlength
      | cons value more =>
        obtain ⟨hfits, hrest⟩ := Bool.and_eq_true_iff.mp hmore
        have hread := (canonical _ value (more.flatMap layout.write ++ rest)).mpr ⟨hfits, rfl⟩
        rw [List.flatMap_cons, List.append_assoc, hread]
        refine (ih (value :: seen) _).mpr ⟨more, Nat.succ.inj hlength, ?_, hrest, rfl⟩
        rw [List.reverse_cons, List.append_assoc, List.singleton_append]

theorem Canonical.list {layout : Layout α} (canonical : layout.Canonical) :
    layout.list.Canonical := by
  intro bytes values rest
  constructor
  · intro h
    simp only [Layout.list] at h
    split at h
    · cases h
    · rename_i count behind hcount
      obtain ⟨hfits, hbytes⟩ := (canonical_number 4 bytes count behind).mp hcount
      obtain ⟨more, rfl, hvalues, hmore, hbehind⟩ :=
        (canonical.readMany_eq_ok_iff _ _ _ _ _).mp h
      rw [List.reverse_nil, List.nil_append] at hvalues
      subst hvalues hbehind hbytes
      exact ⟨by simp only [Layout.list, hfits, hmore, Bool.and_self],
        (List.append_assoc _ _ _).symm⟩
  · rintro ⟨hfits, rfl⟩
    obtain ⟨hlength, hall⟩ := Bool.and_eq_true_iff.mp hfits
    have hcount := (canonical_number 4 _ values.length
      (values.flatMap layout.write ++ rest)).mpr ⟨hlength, rfl⟩
    simp only [number] at hcount
    simp only [Layout.list, number, List.append_assoc, hcount]
    exact (canonical.readMany_eq_ok_iff _ _ _ _ _).mpr ⟨values, rfl, rfl, hall, rfl⟩

/-! ## Bytes that are a value and nothing else -/

theorem writeAll_eq_ok_iff (layout : Layout α) (value : α) (bytes : Bytes) :
    layout.writeAll value = .ok bytes ↔ layout.fits value = true ∧ bytes = layout.write value := by
  rw [writeAll]
  cases layout.fits value <;> simp [eq_comm]

section Whole

variable {layout : Layout α} (canonical : layout.Canonical)

include canonical

/-- Bytes are a value exactly if they are what is written for it. -/
theorem Canonical.readAll_eq_ok_iff (bytes : Bytes) (value : α) :
    layout.readAll bytes = .ok value ↔ layout.writeAll value = .ok bytes := by
  rw [writeAll_eq_ok_iff]
  have hread := canonical bytes value []
  rw [List.append_nil] at hread
  rw [← hread, readAll]
  constructor
  · intro h
    split at h
    · cases h
    · rename_i hwhole
      cases h
      exact hwhole
    · cases h
  · intro h
    rw [h]

/-- No written form continues another one. -/
theorem Canonical.eq_of_isPrefix {value other : α} {bytes longer : Bytes}
    (hbytes : layout.writeAll value = .ok bytes) (hlonger : layout.writeAll other = .ok longer)
    (hfront : bytes <+: longer) : bytes = longer := by
  obtain ⟨hfits, rfl⟩ := (layout.writeAll_eq_ok_iff _ _).mp hbytes
  obtain ⟨hotherFits, rfl⟩ := (layout.writeAll_eq_ok_iff _ _).mp hlonger
  obtain ⟨rest, hrest⟩ := hfront
  -- the longer form is read both as the one value and as the other
  have hvalue := (canonical _ value rest).mpr ⟨hfits, hrest.symm⟩
  have hother := (canonical _ other []).mpr ⟨hotherFits, (List.append_nil _).symm⟩
  cases hvalue.symm.trans hother
  rfl

/-- Bytes that are a part of a written form, or have one as a part, are refused. -/
theorem Canonical.readAll_eq_error {value : α} {bytes other : Bytes}
    (hbytes : layout.writeAll value = .ok bytes) (hne : other ≠ bytes)
    (hfront : other <+: bytes ∨ bytes <+: other) :
    ∃ error, layout.readAll other = .error error := by
  cases hother : layout.readAll other with
  | error error => exact ⟨error, rfl⟩
  | ok found =>
    -- what is accepted is a written form as well, and one of the two continues the other
    have hfound := (canonical.readAll_eq_ok_iff other found).mp hother
    rcases hfront with hshort | hlong
    · exact absurd (canonical.eq_of_isPrefix hfound hbytes hshort) hne
    · exact absurd (canonical.eq_of_isPrefix hbytes hfound hlong).symm hne

end Whole

end Layout

end GovernanceRelay
