import BatchChanges.Changeset.Codec
import BatchChanges.Proofs.Campaign.Members
import BatchChanges.Proofs.Codec.Fields
import BatchChanges.Proofs.Codec.Timestamp

/-! # Values of fields are read back

Texts, truth values, words, instants and counters are read back whatever they are. An identifier is
if its number has 64 bits, which is all that a row number can have.
-/

namespace BatchChanges

variable {depth : Nat}

namespace Json

open Document

theorem codes_text (value : String) : Codes depth (text value) text? value :=
  ⟨rfl, .text value, rfl⟩

theorem codes_bool (value : Bool) : Codes depth (bool value) bool? value :=
  ⟨rfl, .bool value, rfl⟩

theorem codes_uint32 (value : UInt32) : Codes depth (natural value.toNat) uint32? value := by
  have bounded : value.toNat < UInt32.size := value.toNat_lt_size
  refine ⟨?_, .integer ?_, rfl⟩
  · have number : integer? (natural value.toNat) = some (value.toNat : Int) := rfl
    rw [uint32?, naturalBelow?, number, Option.bind_eq_bind, Option.bind_some,
      if_pos ⟨Int.natCast_nonneg _, Int.ofNat_lt.mpr bounded⟩, Int.toNat_natCast,
      Option.map_some, UInt32.ofNat_toNat]
  · have room : UInt32.size ≤ Magnitude.significandLimit := by decide
    exact Int.natAbs_natCast _ ▸ (bounded.le.trans room)

/-- A value that is written as a word. -/
theorem codes_word {α : Type} {word : α → String} {ofWord? : String → Option α}
    (inverse : ∀ value, ofWord? (word value) = some value) (value : α) :
    Codes depth (text (word value)) (fun json => (word? json).bind ofWord?) value :=
  ⟨inverse value, .text _, rfl⟩

end Json

/-- The number of an identifier has 64 bits. -/
def Id.IsStorable {kind : Kind} (id : Id kind) : Prop :=
  -9223372036854775808 ≤ id.value ∧ id.value ≤ 9223372036854775807

instance {kind : Kind} (id : Id kind) : Decidable id.IsStorable :=
  inferInstanceAs (Decidable (_ ∧ _))

theorem Id.codes {kind : Kind} {id : Id kind} (storable : id.IsStorable) :
    Codes depth id.toJson Id.read? id := by
  refine ⟨?_, .integer ?_, rfl⟩
  · have read : Document.int64? id.toJson = some id.value := if_pos storable
    rw [Id.read?, read, Option.map_some]
  · have limit : Json.Magnitude.significandLimit = 18446744073709551615 := rfl
    obtain ⟨low, high⟩ := storable
    omega

theorem Time.codes (time : Time) : Codes depth time.toJson Time.read? time := by
  refine ⟨?_, .text _, rfl⟩
  have written : Document.text? time.toJson = some time.text := rfl
  rw [Time.read?, written, Option.bind_some, parse?_text]

theorem CodeHost.codes (host : CodeHost) : Codes depth host.toJson CodeHost.read? host :=
  Json.codes_word ofWord?_word host

theorem HostState.codes (state : HostState) : Codes depth state.toJson HostState.read? state :=
  Json.codes_word ofWord?_word state

theorem Publication.codes (state : Publication) :
    Codes depth state.toJson Publication.read? state :=
  Json.codes_word ofWord?_word state

theorem QueueState.codes (state : QueueState) : Codes depth state.toJson QueueState.read? state :=
  Json.codes_word ofWord?_word state

/-- Of the three intents two are truth values and one is a word. -/
theorem PublishIntent.codes (intent : PublishIntent) :
    Codes depth intent.toJson PublishIntent.read? intent := by
  cases intent with
  | unpublished => exact ⟨rfl, .bool false, rfl⟩
  | draft => exact ⟨rfl, .text "draft", rfl⟩
  | published => exact ⟨rfl, .bool true, rfl⟩

namespace Namespace

def IsStorable : Namespace → Prop
  | user id => id.IsStorable
  | org id => id.IsStorable

instance (space : Namespace) : Decidable space.IsStorable := by
  cases space <;> exact inferInstanceAs (Decidable (Id.IsStorable _))

theorem codes {space : Namespace} (storable : space.IsStorable) :
    Codes (depth + 1) space.toJson Namespace.read? space := by
  cases space with
  | user id =>
    obtain ⟨read, plain, -⟩ : Codes depth _ _ id := Id.codes storable
    exact ⟨congrArg (Option.map user) read, .object (by simp) (by simpa using plain), rfl⟩
  | org id =>
    obtain ⟨read, plain, -⟩ : Codes depth _ _ id := Id.codes storable
    exact ⟨congrArg (Option.map org) read, .object (by simp) (by simpa using plain), rfl⟩

end Namespace

namespace Document

private theorem readAll_map {α : Type} {write : α → Json} {read : Json → Option α} {values : List α}
    (reads : ∀ value ∈ values, read (write value) = some value) :
    readAll read (values.map write) = some values := by
  induction values with
  | nil => rfl
  | cons first rest ih =>
    have others := ih fun value member => reads value (List.mem_cons_of_mem _ member)
    have head := reads first List.mem_cons_self
    simp [readAll, head, others]

end Document

namespace IdSet

variable {kind : Kind}

private theorem ofList_ids (set : IdSet kind) : ofList set.ids = set := by
  refine ext_contains fun id => ?_
  rw [Bool.eq_iff_iff, contains_ofList, Table.mem_ids_iff, Table.contains_iff]

theorem codes {set : IdSet kind} (storable : ∀ id ∈ set.ids, id.IsStorable) :
    Codes (depth + 1) set.toJson IdSet.read? set := by
  have codes : ∀ id ∈ set.ids, Codes depth id.toJson Id.read? id :=
    fun id member => Id.codes (storable id member)
  refine ⟨?_, .array ?_, rfl⟩
  · have members : Document.list? Id.read? set.toJson = some set.ids :=
      Document.readAll_map fun id member => (codes id member).read
    rw [IdSet.read?, members, Option.map_some, ofList_ids]
  · intro item member
    obtain ⟨id, listed, rfl⟩ := List.mem_map.mp member
    exact (codes id listed).plain

end IdSet

end BatchChanges
