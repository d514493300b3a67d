import BatchChanges.Document
import BatchChanges.Proofs.Codec.JsonText
import Mathlib.Data.List.Nodup

/-! # Records are read back field by field

A record is written as an object with its fields in order, and a field without a value is left out.
When it is read, each field is looked up by its name. As the fields have different names, each one
gets what was written for it, or nothing.
-/

namespace BatchChanges

/-- What is written for a value is read as the value again. It is something, so that it differs from
what is absent, and it is nested at most `depth` levels deep, so that it can be read from a text. -/
structure Codes {α : Type} (depth : Nat) (json : Json) (read : Json → Option α) (value : α) :
    Prop where
  read : read json = some value
  plain : json.IsPlain depth
  proper : Document.isNull json = false

/-- Where all names are different each field is the only one of its name. -/
theorem Document.isSingle_of_nodup {V : Type} {fields : List (String × V)}
    (distinct : (fields.map (·.1)).Nodup) (name : String) : isSingle fields name = true := by
  have once := List.nodup_iff_count_le_one.mp distinct name
  rw [List.count_eq_countP, List.countP_map, List.countP_eq_length_filter] at once
  simpa [isSingle, Function.comp_def] using once

namespace Json

variable {fields : List (String × Option Json)} {members : List (String × Json)} {name : String}

def present (fields : List (String × Option Json)) : List (String × Json) :=
  fields.filterMap fun field => field.2.map fun value => (field.1, value)

private theorem sublist_present (fields : List (String × Option Json)) :
    ((present fields).map (·.1)).Sublist (fields.map (·.1)) := by
  induction fields with
  | nil => exact .slnil
  | cons field rest ih =>
    obtain ⟨name, value?⟩ := field
    cases value? with
    | none => exact ih.cons _
    | some value => exact ih.cons_cons _

private theorem lookup_eq_none {β : Type} {entries : List (String × β)}
    (absent : name ∉ entries.map (·.1)) : entries.lookup name = none := by
  rw [List.lookup_eq_none_iff]
  intro entry member
  simpa using fun same : name = entry.1 => absent (same ▸ List.mem_map_of_mem member)

private theorem lookup_present (distinct : (fields.map (·.1)).Nodup) (name : String) :
    (present fields).lookup name = (fields.lookup name).join := by
  induction fields with
  | nil => rfl
  | cons field rest ih =>
    obtain ⟨other, value?⟩ := field
    obtain ⟨absent, distinct⟩ := List.nodup_cons.mp distinct
    by_cases same : name = other
    · subst same
      cases value? with
      | none =>
        have gone := lookup_eq_none fun member => absent ((sublist_present rest).subset member)
        simpa [present] using gone
      | some value => simp [present]
    · have next : ((other, value?) :: rest).lookup name = rest.lookup name := by
        rw [List.lookup_cons, beq_false_of_ne same]
      rw [next, ← ih distinct]
      cases value? with
      | none => rfl
      | some value =>
        change ((other, value) :: present rest).lookup name = _
        rw [List.lookup_cons, beq_false_of_ne same]

private theorem record?_object (distinct : (members.map (·.1)).Nodup) (expected : List String) :
    Document.record? expected (object members) = some members := by
  have all : expected.all (Document.isSingle members) = true :=
    List.all_eq_true.mpr fun name _ => Document.isSingle_of_nodup distinct name
  simp [Document.record?, Document.fields?, all]

end Json

private theorem codes_members {α : Type} {depth : Nat} {members : List (String × Json)}
    {read : Fields Json → Option α} {value : α} (distinct : (members.map (·.1)).Nodup)
    (plain : ∀ member ∈ members, member.2.IsPlain depth) (reads : read members = some value)
    (names : List String) :
    Codes (depth + 1) (.object members) (fun json => Document.record? names json >>= read)
      value where
  read := by
    rw [Json.record?_object distinct names]
    exact reads
  plain := .object distinct plain
  proper := rfl

/-- A record that is written with all its fields is read back if they are. -/
theorem codes_object {α : Type} {depth : Nat} {members : List (String × Json)}
    {names : List String} {read : Fields Json → Option α} {value : α}
    (named : members.map (·.1) = names) (distinct : names.Nodup)
    (plain : ∀ member ∈ members, member.2.IsPlain depth) (reads : read members = some value) :
    Codes (depth + 1) (.object members) (fun json => Document.record? names json >>= read) value :=
  codes_members (named ▸ distinct) plain reads names

namespace Fields

variable {members : Fields Json} {fields : List (String × Option Json)} {name : String}
  {json : Json} {depth : Nat} {α : Type} {read : Json → Option α} {value : α}

/-- A member that is there is read. -/
theorem required_of (found : members.lookup name = some json)
    (codes : Codes depth json read value) : members.required name read = some value := by
  rw [required, found, Option.bind_some, codes.read]

theorem withDefault_of (found : members.lookup name = some json)
    (codes : Codes depth json read value) (default : α) :
    members.withDefault name default read = some value := by
  rw [withDefault, found]
  exact codes.read

/-- Under every name there is what the field of that name was given. -/
def Holds (members : Fields Json) (fields : List (String × Option Json)) : Prop :=
  ∀ name, members.lookup name = (fields.lookup name).join

theorem Holds.required (held : members.Holds fields)
    (listed : fields.lookup name = some (some json)) (codes : Codes depth json read value) :
    members.required name read = some value :=
  required_of (by rw [held, listed, Option.join_some]) codes

theorem Holds.withDefault (held : members.Holds fields)
    (listed : fields.lookup name = some (some json)) (codes : Codes depth json read value)
    (default : α) : members.withDefault name default read = some value :=
  withDefault_of (by rw [held, listed, Option.join_some]) codes default

/-- A value that may be absent is read back. -/
theorem Holds.optional {write : α → Json} {value? : Option α} (held : members.Holds fields)
    (listed : fields.lookup name = some (value?.map write))
    (codes : ∀ value ∈ value?, Codes depth (write value) read value) :
    members.optional name read = some value? := by
  rw [Fields.optional, held, listed]
  cases value? with
  | none => rfl
  | some value =>
    obtain ⟨reads, -, proper⟩ := codes value rfl
    simp [Document.optional?, proper, reads]

end Fields

/-- A record is read back if its fields are. -/
theorem codes_record {α : Type} {depth : Nat} {fields : List (String × Option Json)}
    {names : List String} {read : Fields Json → Option α} {value : α}
    (named : fields.map (·.1) = names) (distinct : names.Nodup)
    (plain : ∀ field ∈ fields, ∀ value ∈ field.2, value.IsPlain depth)
    (reads : ∀ members : Fields Json, members.Holds fields → read members = some value) :
    Codes (depth + 1) (Json.ofFields fields)
      (fun json => Document.record? names json >>= read) value := by
  subst named
  refine codes_members (distinct.sublist (Json.sublist_present fields)) ?_
    (reads _ (Json.lookup_present distinct)) _
  intro member listed
  obtain ⟨field, present, written⟩ := List.mem_filterMap.mp listed
  obtain ⟨value, held, rfl⟩ := Option.map_eq_some_iff.mp written
  exact plain field present value held

end BatchChanges
