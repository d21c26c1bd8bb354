import BlockVolume.Json.Record
import BlockVolume.Proofs.Checks
/-!
Records as they are read out of values.

A record is told by an object or by an array. `IsRecord` says of which values it can be read, and
`field?` which value a field then has; texts and lists are read out of the values of fields.
-/

namespace BlockVolume.Json

open BlockVolume.Text (Bytes)

variable {names seen : List String} {name text : String} {raw : Bytes}
  {members : List (Bytes × Value)} {items : List Value} {value : Value} {found : Found}

/-! ### Members -/

/-- Every member has a name that is a text; no name of a field is in `seen` or stands twice. -/
structure Apart (names seen : List String) (members : List (Bytes × Value)) : Prop where
  named : ∀ member ∈ members, ∃ name, unescape? member.1 = some name ∧ (name ∈ names → name ∉ seen)
  once : members.Pairwise fun member later =>
    ∀ name ∈ names, unescape? member.1 = some name → unescape? later.1 ≠ some name

theorem apart_nil : Apart names seen [] := ⟨by simp, .nil⟩

/-- A name that no field has changes nothing. -/
theorem apart_cons_unknown (spelled : unescape? raw = some name) (unknown : name ∉ names) :
    Apart names seen ((raw, value) :: members) ↔ Apart names seen members := by
  constructor
  · rintro ⟨named, once⟩
    exact ⟨fun member hm => named member (List.mem_cons_of_mem _ hm), once.of_cons⟩
  · rintro ⟨named, once⟩
    refine ⟨List.forall_mem_cons.mpr ⟨⟨name, spelled, fun known => absurd known unknown⟩, named⟩,
      List.pairwise_cons.mpr ⟨fun later _ other known same => ?_, once⟩⟩
    obtain rfl := Option.some.inj (spelled.symm.trans same)
    exact absurd known unknown

/-- The name of a field is one more that has been seen. -/
theorem apart_cons_known (spelled : unescape? raw = some name) (known : name ∈ names) :
    Apart names seen ((raw, value) :: members) ↔ name ∉ seen ∧ Apart names (name :: seen) members := by
  constructor
  · rintro ⟨named, once⟩
    obtain ⟨⟨same, hs, fresh⟩, others⟩ := List.forall_mem_cons.mp named
    obtain ⟨apart, once⟩ := List.pairwise_cons.mp once
    obtain rfl := Option.some.inj (spelled.symm.trans hs)
    refine ⟨fresh known, fun member hm => ?_, once⟩
    obtain ⟨other, ho, new⟩ := others member hm
    refine ⟨other, ho, fun hk => List.not_mem_cons_of_ne_of_not_mem ?_ (new hk)⟩
    rintro rfl
    exact apart member hm _ known spelled ho
  · rintro ⟨fresh, named, once⟩
    refine ⟨List.forall_mem_cons.mpr ⟨⟨name, spelled, fun _ => fresh⟩, fun member hm => ?_⟩,
      List.pairwise_cons.mpr ⟨fun member hm other hk here => ?_, once⟩⟩
    · obtain ⟨other, ho, new⟩ := named member hm
      exact ⟨other, ho, fun hk old => new hk (List.mem_cons_of_mem _ old)⟩
    · obtain rfl := Option.some.inj (spelled.symm.trans here)
      obtain ⟨other, ho, new⟩ := named member hm
      intro again
      obtain rfl := Option.some.inj (ho.symm.trans again)
      exact new hk List.mem_cons_self

/-- The members of a record are read where they are apart. -/
theorem knownMembers_eq_ok_iff :
    (∃ found, knownMembers names seen members = .ok found) ↔ Apart names seen members := by
  fun_induction knownMembers names seen members with
  | case1 seen => simp [apart_nil]
  | case2 seen raw value members broken =>
    refine ⟨fun ⟨found, read⟩ => (by cases read), fun ⟨named, _⟩ => ?_⟩
    obtain ⟨name, spelled, -⟩ := named _ List.mem_cons_self
    cases broken.symm.trans spelled
  | case3 seen raw value members name spelled unknown ih =>
    rw [ih, apart_cons_unknown spelled (by simpa using unknown)]
  | case4 seen raw value members name spelled known twice =>
    rw [apart_cons_known spelled (by simpa using known)]
    exact ⟨fun ⟨found, read⟩ => (by cases read), fun ⟨fresh, _⟩ => absurd (by simpa using twice) fresh⟩
  | case5 seen raw value members name spelled known fresh ih =>
    rw [apart_cons_known spelled (by simpa using known), ← ih]
    have new : name ∉ seen := by simpa using fresh
    constructor
    · rintro ⟨found, read⟩
      obtain ⟨later, read, -⟩ := map_eq_ok.mp read
      exact ⟨new, later, read⟩
    · rintro ⟨-, later, read⟩
      exact ⟨_, map_eq_ok.mpr ⟨later, read, rfl⟩⟩

/-- A known field is found where it stands. -/
theorem lookup_of_knownMembers (h : knownMembers names seen members = .ok found)
    (known : name ∈ names) : found.lookup name =
      (members.find? fun member => unescape? member.1 == some name).map Prod.snd := by
  fun_induction knownMembers names seen members generalizing found with
  | case1 seen =>
    obtain rfl := Except.ok.inj h
    rfl
  | case2 | case4 => cases h
  | case3 seen raw value members other spelled unknown ih =>
    have different : (unescape? raw == some name) = false := by
      rw [spelled]
      refine beq_false_of_ne fun same => ?_
      obtain rfl := Option.some.inj same
      simp [known] at unknown
    rw [ih h, List.find?_cons_of_neg (by simp [different])]
  | case5 seen raw value members other spelled isKnown fresh ih =>
    obtain ⟨later, read, rfl⟩ := map_eq_ok.mp h
    by_cases same : other = name
    · subst same
      rw [List.lookup_cons_self, List.find?_cons_of_pos (by simp [spelled])]
      rfl
    · have different : (name == other) = false := beq_false_of_ne (Ne.symm same)
      rw [List.lookup_cons, different, List.find?_cons_of_neg (by simpa [spelled] using same),
        ← ih read]

/-! ### Items -/

theorem namedItems_eq_ok_iff :
    namedItems names items = .ok found ↔ items.length ≤ names.length ∧ found = names.zip items := by
  fun_induction namedItems names items generalizing found with
  | case1 names => simp [eq_comm]
  | case2 item items => simp
  | case3 name names item items ih =>
    simp only [map_eq_ok, ih, List.length_cons, Nat.add_le_add_iff_right, List.zip_cons_cons]
    constructor
    · rintro ⟨later, ⟨fits, rfl⟩, rfl⟩
      exact ⟨fits, rfl⟩
    · rintro ⟨fits, rfl⟩
      exact ⟨_, ⟨fits, rfl⟩, rfl⟩

/-! ### Records -/

namespace Value

/-- A value that a record with fields of the given names can be read out of. -/
def IsRecord (names : List String) : Value → Prop
  | .object members => Apart names [] members
  | .array items => items.length ≤ names.length
  | _ => False

/-- The value of a field in a record. -/
def field? (names : List String) (name : String) : Value → Option Value
  | .object members =>
    (members.find? fun member => unescape? member.1 == some name).map Prod.snd
  | .array items => (names.zip items).lookup name
  | _ => none

/-- The value is a string with the text. -/
def Spells (value : Value) (text : String) : Prop :=
  ∃ raw, value = .string raw ∧ unescape? raw = some text

theorem fields_eq_ok_iff : (∃ found, value.fields names = .ok found) ↔ value.IsRecord names := by
  cases value with
  | object members => exact knownMembers_eq_ok_iff
  | array items => simp [fields, IsRecord, namedItems_eq_ok_iff]
  | null | bool | number | string => simp [fields, IsRecord]

/-- What is read out of the fields of a record. -/
theorem fields_bind_eq_ok_iff {α : Type} {read : Found → Except Error α} {x : α} {Told : Prop}
    (told : ∀ found, value.fields names = .ok found → (read found = .ok x ↔ Told)) :
    value.fields names >>= read = .ok x ↔ value.IsRecord names ∧ Told := by
  rw [bind_eq_ok, ← fields_eq_ok_iff]
  constructor
  · rintro ⟨found, fields, h⟩
    exact ⟨⟨found, fields⟩, (told found fields).mp h⟩
  · rintro ⟨⟨found, fields⟩, h⟩
    exact ⟨found, fields, (told found fields).mpr h⟩

theorem lookup_of_fields (h : value.fields names = .ok found) (known : name ∈ names) :
    found.lookup name = value.field? names name := by
  cases value with
  | object members => exact lookup_of_knownMembers h known
  | array items =>
    obtain ⟨-, rfl⟩ := namedItems_eq_ok_iff.mp h
    rfl
  | null | bool | number | string => cases h

theorem asText_eq_ok_iff : value.asText = .ok text ↔ value.Spells text := by
  cases value with
  | string raw =>
    cases spelled : unescape? raw <;> simp [asText, Spells, spelled]
  | null | bool | number | array | object => simp [asText, Spells]

theorem asList_eq_ok_iff {α : Type} {item : Value → Except Error α} {xs : List α} :
    value.asList item = .ok xs ↔
      ∃ items, value = .array items ∧ List.Forall₂ (fun v x => item v = .ok x) items xs := by
  cases value with
  | array items => simp [asList, mapM_eq_ok]
  | null | bool | number | string | object => simp [asList]

/-- The text of a field. -/
def Gives (names : List String) (value : Value) (name text : String) : Prop :=
  ∃ field, value.field? names name = some field ∧ field.Spells text

/-- The text of a field, which is empty where the field is left out. -/
def GivesOrLacks (names : List String) (value : Value) (name text : String) : Prop :=
  value.field? names name = none ∧ text = "" ∨ Gives names value name text

end Value

namespace Found

section

variable {α : Type} {read : Value → Except Error α} {default x : α}
  (h : value.fields names = .ok found) (known : name ∈ names)

include h known

theorem required_eq_ok_iff : found.required name read = .ok x ↔
    ∃ field, value.field? names name = some field ∧ read field = .ok x := by
  rw [required, Value.lookup_of_fields h known]
  cases value.field? names name <;> simp

theorem optional_eq_ok_iff : found.optional name read default = .ok x ↔
    value.field? names name = none ∧ x = default ∨
      ∃ field, value.field? names name = some field ∧ read field = .ok x := by
  rw [optional, Value.lookup_of_fields h known]
  cases value.field? names name <;> simp [eq_comm]

theorem required_text_iff :
    found.required name Value.asText = .ok text ↔ value.Gives names name text := by
  simp only [required_eq_ok_iff h known, Value.asText_eq_ok_iff, Value.Gives]

theorem optional_text_iff :
    found.optional name Value.asText "" = .ok text ↔ value.GivesOrLacks names name text := by
  simp only [optional_eq_ok_iff h known, Value.asText_eq_ok_iff, Value.GivesOrLacks, Value.Gives]

end

end Found

end BlockVolume.Json
