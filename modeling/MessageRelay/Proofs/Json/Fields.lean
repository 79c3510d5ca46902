import Mathlib.Data.List.Nodup
import MessageRelay.Json.Fields

/-!
# What a record holds

A record says what it says by the names of its fields, whether it is an object, whose members carry
the names, or an array, whose elements stand at their places (`MessageRelay.Json.Holds`). Reading
the fields of a record (`MessageRelay.Json.fields?`) gives exactly what it holds under their names
(`MessageRelay.Json.holds_iff_of_fields?`). So what is known of the fields that were read can be
said of the document, without regard to how it was read.
-/

namespace MessageRelay

namespace Json

variable {names : List String} {name : String} {j value : Json}
  {members : List (Option String × Json)} {elements : List Json}

/-- **A record holds a value under the name of a field**: an object has a member of that name, an
array has the element at the place of the field. -/
inductive Holds (names : List String) (name : String) (value : Json) : Json → Prop where
  | member {members : List (Option String × Json)} (h : (some name, value) ∈ members) :
    Holds names name value (object members)
  | element {elements : List Json} (h : (name, value) ∈ names.zip elements) :
    Holds names name value (array elements)

theorem holds_object_iff :
    Holds names name value (object members) ↔ (some name, value) ∈ members :=
  ⟨fun h => by cases h; assumption, .member⟩

/-- A record holds a value under the name of a field, and no other one. -/
def HoldsOnly (names : List String) (name : String) (value j : Json) : Prop :=
  ∀ v, Holds names name v j ↔ v = value

/-- An array holds what stands at the place of the field. -/
theorem holds_array_iff (hnodup : names.Nodup) {i : Nat} (hi : names[i]? = some name) :
    Holds names name value (array elements) ↔ (elements.map some)[i]? = some (some value) := by
  have hplace : (elements.map some)[i]? = some (some value) ↔ elements[i]? = some value := by
    simp
  rw [hplace]
  constructor
  · rintro ⟨⟩
    next hmem =>
      obtain ⟨k, hk⟩ := List.mem_iff_getElem?.mp hmem
      obtain ⟨hname, hvalue⟩ := List.getElem?_zip_eq_some.mp hk
      obtain ⟨hlt, -⟩ := List.getElem?_eq_some_iff.mp hi
      rwa [(List.getElem?_inj hlt hnodup).mp (hi.trans hname.symm)]
  · intro hvalue
    exact .element (List.mem_iff_getElem?.mpr ⟨i, List.getElem?_zip_eq_some.mpr ⟨hi, hvalue⟩⟩)

/-- What is the only value under a name is what the members hold there. -/
theorem mem_iff_of_unique? {o : Option Json} (h : unique? name members = some o) :
    (some name, value) ∈ members ↔ o = some value := by
  have hmem : (some name, value) ∈ members ↔
      (some name, value) ∈ members.filter (·.1 == some name) := by
    rw [List.mem_filter]
    exact (and_iff_left (beq_self_eq_true _)).symm
  rw [hmem]
  unfold unique? at h
  split at h
  next hnone =>
    obtain rfl := Option.some.inj h
    rw [hnone]
    exact iff_of_false List.not_mem_nil nofun
  next name' value' hone =>
    obtain rfl := Option.some.inj h
    have hname : name' = some name := by
      have hfirst : (name', value') ∈ members.filter (·.1 == some name) := by
        rw [hone]
        exact List.mem_singleton_self _
      exact beq_iff_eq.mp (List.mem_filter.mp hfirst).2
    rw [hone, List.mem_singleton, hname, Prod.mk.injEq, Option.some_inj, Option.some_inj]
    exact ⟨fun h => h.2.symm, fun h => ⟨rfl, h.symm⟩⟩
  next => cases h

/-- A list is read element by element if each element is. -/
theorem mapM_eq_some_iff {α β : Type} {f : α → Option β} {as : List α} {bs : List β} :
    as.mapM f = some bs ↔ as.map f = bs.map some := by
  induction as generalizing bs with
  | nil => cases bs <;> simp
  | cons a as ih =>
    rw [List.mapM_cons, List.map_cons]
    cases f a with
    | none => cases bs <;> simp
    | some b => cases bs <;> simp [Option.bind_eq_some_iff, ih, and_comm]

/-- **Reading the fields of a record gives what it holds** under their names. -/
theorem holds_iff_of_fields? (hnodup : names.Nodup) {values : List (Option Json)}
    (h : fields? names j = some values) {i : Nat} (hi : names[i]? = some name) :
    Holds names name value j ↔ values[i]? = some (some value) := by
  unfold fields? at h
  split at h
  next members =>
    split at h
    next =>
      have hall := mapM_eq_some_iff.mp h
      have hone : values[i]?.map some = some (unique? name members) := by
        rw [← List.getElem?_map, ← hall, List.getElem?_map, hi]
        rfl
      obtain ⟨o, ho, hunique⟩ := Option.map_eq_some_iff.mp hone
      rw [holds_object_iff, mem_iff_of_unique? hunique.symm, ho, Option.some.injEq]
    next => cases h
  next elements =>
    split at h
    next =>
      obtain rfl := Option.some.inj h
      exact holds_array_iff hnodup hi
    next => cases h
  next => cases h

/-- What is read of a field that may be absent or `null` is read of a value that is there. -/
theorem optional?_eq_some_some_iff {α : Type} {read : Json → Option α} {o : Option Json} {a : α} :
    optional? read o = some (some a) ↔ ∃ v, o = some v ∧ v ≠ null ∧ read v = some a := by
  unfold optional?
  split
  next => simp
  next => simp
  next v hv =>
    have hread : (read v).map some = some (some a) ↔ read v = some a := by simp
    rw [hread]
    exact ⟨fun h => ⟨v, rfl, hv, h⟩, fun ⟨_, hw, _, h⟩ => Option.some.inj hw ▸ h⟩

/-- Nothing is read of a field exactly if it is absent or `null`. -/
theorem optional?_eq_some_none_iff {α : Type} {read : Json → Option α} {o : Option Json} :
    optional? read o = some none ↔ ∀ v, o = some v → v = null := by
  unfold optional?
  split
  next => simp
  next => simp
  next v hv => simpa using hv

end Json

end MessageRelay
