/-! # Row identifiers

Every stored row is named by an integer. Identifiers of different tables are different types, so
that the number of a campaign is never read as the number of a changeset. Zero is reserved for a
row that no store has numbered yet.
-/

namespace BatchChanges

/-- The tables whose rows carry an identifier. -/
inductive Kind where
  | campaign
  | campaignSpec
  | changesetSpec
  | changeset
  | repo
  | user
  | org
deriving DecidableEq, Repr

/-- The identifier of a row of the table `kind`. -/
structure Id (kind : Kind) where
  value : Int
deriving DecidableEq, Repr

abbrev CampaignId := Id .campaign
abbrev CampaignSpecId := Id .campaignSpec
abbrev ChangesetSpecId := Id .changesetSpec
abbrev ChangesetId := Id .changeset
abbrev RepoId := Id .repo
abbrev UserId := Id .user
abbrev OrgId := Id .org

namespace Id

variable {kind : Kind}

/-- The identifier of a row that is not stored yet. -/
def unsaved : Id kind := ⟨0⟩

instance : Inhabited (Id kind) := ⟨unsaved⟩

/-- Zero is no row's number. -/
def isUnsaved (id : Id kind) : Bool := id.value == 0

@[simp] theorem isUnsaved_iff (id : Id kind) : id.isUnsaved = true ↔ id = unsaved := by
  cases id
  simp [isUnsaved, unsaved]

def text (id : Id kind) : String := toString id.value

instance : LT (Id kind) := ⟨fun left right => left.value < right.value⟩

instance : LE (Id kind) := ⟨fun left right => left.value ≤ right.value⟩

instance (left right : Id kind) : Decidable (left < right) :=
  inferInstanceAs (Decidable (left.value < right.value))

instance (left right : Id kind) : Decidable (left ≤ right) :=
  inferInstanceAs (Decidable (left.value ≤ right.value))

theorem le_def {left right : Id kind} : left ≤ right ↔ left.value ≤ right.value := Iff.rfl

theorem ext_value {left right : Id kind} (same : left.value = right.value) : left = right := by
  cases left
  cases right
  exact congrArg Id.mk same

theorem lt_irrefl (id : Id kind) : ¬ id < id := Int.lt_irrefl id.value

theorem lt_trans {first second third : Id kind} (left : first < second) (right : second < third) :
    first < third := Int.lt_trans left right

theorem ne_of_lt {left right : Id kind} (less : left < right) : left ≠ right := by
  rintro rfl
  exact lt_irrefl left less

/-- Two identifiers of one table are equal or one of them is the smaller. -/
theorem lt_or_eq_or_gt (left right : Id kind) : left < right ∨ left = right ∨ right < left := by
  rcases Int.lt_trichotomy left.value right.value with less | same | greater
  · exact .inl less
  · exact .inr (.inl (ext_value same))
  · exact .inr (.inr greater)

end Id

end BatchChanges
