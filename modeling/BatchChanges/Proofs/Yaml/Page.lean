import BatchChanges.Document
import BatchChanges.Proofs.Yaml.Node
import BatchChanges.Proofs.Yaml.Tokens

/-! # Pages

A page is a text with one block mapping, some of whose values are block mappings themselves. It is
read as what stands on it, whatever blank lines and comments there are between its lines.
-/

namespace BatchChanges.Yaml

namespace Line

def name (line : Line) : String := String.ofList line.key.text

def node (line : Line) : Yaml := line.value.elim absent (·.2.node)

def valueTokens (line : Line) : List Token := line.value.elim [] fun value => [value.2.token]

end Line

/-- An entry of a page: its first line, which is not indented, and the lines under it, which are
indented by `depth`. -/
structure Entry where
  line : Line
  depth : Nat := 2
  inner : List Line := []

namespace Entry

def lines (entry : Entry) : List Line := entry.line :: entry.inner

/-- Whether the lines stand where they belong, and a value is written only in one place. -/
def isProper (entry : Entry) : Bool :=
  entry.lines.all Line.isProper && entry.line.column == 0 &&
    entry.inner.all (fun line => line.column == entry.depth && decide (0 < line.column)) &&
    (entry.inner.isEmpty || entry.line.value.isNone)

def node (entry : Entry) : Yaml :=
  if entry.inner.isEmpty then entry.line.node
  else mapping (entry.inner.map fun line => (line.key.node, line.node))

def valueTokens (entry : Entry) : List Token :=
  if entry.inner.isEmpty then entry.line.valueTokens
  else .blockMappingStart :: (spelling Line.key Line.valueTokens entry.inner ++ [.blockEnd])

end Entry

/-- A text with one mapping. -/
structure Page where
  /-- The lines without content at its start. -/
  margins : List Margin := []
  entries : List Entry

namespace Page

def lines (page : Page) : List Line := page.entries.flatMap Entry.lines

def text (page : Page) : String :=
  String.ofList
    (page.margins.flatMap (fun margin => margin.chars ++ ['\n']) ++ Line.chars page.lines)

def isProper (page : Page) : Bool :=
  page.margins.all Margin.isProper && page.entries.all Entry.isProper

/-- The names and values of the entries. -/
def fields (page : Page) : List (String × Yaml) :=
  page.entries.map fun entry => (entry.line.name, entry.node)

def node (page : Page) : Yaml :=
  if page.entries.isEmpty then absent
  else mapping (page.entries.map fun entry => (entry.line.key.node, entry.node))

end Page

namespace Line

variable {line : Line} {rest : List Line} {columns : List Nat} {column : Nat}

/-- A line in the column of the innermost mapping goes on with it. -/
theorem tokens_level : tokens (line.column :: columns) (line :: rest) =
    line.entryTokens ++ tokens (line.column :: columns) rest := by
  simp [tokens, marks, columnsAfter, opens]

private theorem tokens_inward (deeper : opens columns line.column = true) :
    tokens columns (line :: rest) =
      .blockMappingStart :: (line.entryTokens ++ tokens (line.column :: columns) rest) := by
  have kept : columns.dropWhile (line.column < ·) = columns ∧
      columns.takeWhile (line.column < ·) = [] := by
    cases columns with
    | nil => exact ⟨rfl, rfl⟩
    | cons first columns =>
      simp only [opens, List.head?_cons, Option.all_some, decide_eq_true_eq] at deeper
      simp [Nat.not_lt.mpr (Nat.le_of_lt deeper)]
  simp [tokens, marks, columnsAfter, kept, deeper]

private theorem tokens_outward (ends : ∀ next ∈ rest.head?, next.column < column) :
    tokens (column :: columns) rest = .blockEnd :: tokens columns rest := by
  cases rest with
  | nil => rfl
  | cons next rest =>
    have deeper := ends next rfl
    simp [tokens, marks, columnsAfter, deeper]

/-- Lines in the column of the innermost mapping are its entries. -/
theorem tokens_inner {inner : List Line} (level : ∀ line ∈ inner, line.column = column) :
    tokens (column :: columns) (inner ++ rest) =
      spelling key valueTokens inner ++ tokens (column :: columns) rest := by
  induction inner with
  | nil => rfl
  | cons line inner ih =>
    obtain ⟨rfl, level⟩ := List.forall_mem_cons.mp level
    rw [List.cons_append, tokens_level, ih level]
    simp [spelling, entryTokens, valueTokens]

private theorem spells_node (line : Line) : Spells 3 line.node line.valueTokens := by
  cases value : line.value with
  | none => simpa [node, valueTokens, value] using spells_absent.mono (by decide)
  | some written => simpa [node, valueTokens, value] using spells_phrase written.2

end Line

namespace Entry

variable {entry : Entry} {rest : List Line}

private theorem proper_lines (proper : entry.isProper = true) :
    ∀ line ∈ entry.lines, line.isProper = true := by
  simp only [isProper, Bool.and_eq_true, List.all_eq_true] at proper
  exact proper.1.1.1

private theorem column_eq_zero (proper : entry.isProper = true) : entry.line.column = 0 := by
  simp only [isProper, Bool.and_eq_true, beq_iff_eq] at proper
  exact proper.1.1.2

private theorem column_inner (proper : entry.isProper = true) :
    ∀ line ∈ entry.inner, line.column = entry.depth ∧ 0 < line.column := by
  simp only [isProper, Bool.and_eq_true, List.all_eq_true, beq_iff_eq, decide_eq_true_eq] at proper
  exact proper.1.2

private theorem value_eq_none (proper : entry.isProper = true) (inner : entry.inner ≠ []) :
    entry.line.value = none := by
  simp only [isProper, Bool.and_eq_true, Bool.or_eq_true, List.isEmpty_iff, inner, false_or,
    Option.isNone_iff_eq_none] at proper
  exact proper.2

private theorem isChain_lines (proper : entry.isProper = true) :
    entry.lines.IsChain Line.Precedes := by
  refine List.isChain_cons.mpr ⟨fun next head valued => ?_, ?_⟩
  · have inner : entry.inner ≠ [] := by
      rintro empty
      rw [empty] at head
      cases head
    rw [value_eq_none proper inner] at valued
    cases valued
  · refine (List.pairwise_of_forall_mem_list fun line member next later _ => ?_).isChain
    rw [(column_inner proper line member).1, (column_inner proper next later).1]

private theorem tokens_lines (proper : entry.isProper = true)
    (level : ∀ next ∈ rest.head?, next.column = 0) :
    Line.tokens [0] (entry.lines ++ rest) =
      spelling (·.line.key) valueTokens [entry] ++ Line.tokens [0] rest := by
  have zero := column_eq_zero proper
  have head := @Line.tokens_level entry.line (entry.inner ++ rest) []
  rw [zero] at head
  rw [lines, List.cons_append, head]
  cases inner : entry.inner with
  | nil => simp [spelling, Line.entryTokens, valueTokens, Line.valueTokens, inner]
  | cons first others =>
    have columns := column_inner proper
    have bare := value_eq_none proper (by simp [inner])
    rw [inner] at columns
    obtain ⟨⟨depth, deeper⟩, below⟩ := List.forall_mem_cons.mp columns
    have inward := @Line.tokens_inward first (others ++ rest) [0]
      (by simpa [Line.opens] using deeper)
    have go_on := @Line.tokens_inner rest [0] first.column others fun line member => by
      rw [depth, (below line member).1]
    have outward := @Line.tokens_outward rest [0] first.column fun next head => by
      rw [level next head]
      exact deeper
    rw [List.cons_append, inward, go_on, outward]
    simp [spelling, Line.entryTokens, Line.valueTokens, valueTokens, inner, bare]

private theorem length_inner_le (entry : Entry) :
    entry.inner.length ≤ entry.valueTokens.length := by
  unfold valueTokens
  split
  · next empty => simp [List.isEmpty_iff.mp empty]
  · have shorter : entry.inner.length ≤ (spelling Line.key Line.valueTokens entry.inner).length :=
      length_le_spelling
    simp only [List.length_cons, List.length_append]
    omega

private theorem spells_node (entry : Entry) :
    Spells (entry.inner.length + 6) entry.node entry.valueTokens := by
  unfold node valueTokens
  split
  · exact entry.line.spells_node.mono (by omega)
  · exact (spells_mapping (fun line _ => line.spells_node) (Nat.le_refl 3)).mono (by omega)

end Entry

namespace Page

variable {page : Page}

private theorem margins_proper (proper : page.isProper = true) :
    ∀ margin ∈ page.margins, margin.isProper = true := by
  simp only [isProper, Bool.and_eq_true, List.all_eq_true] at proper
  exact proper.1

private theorem entries_proper (proper : page.isProper = true) :
    ∀ entry ∈ page.entries, entry.isProper = true := by
  simp only [isProper, Bool.and_eq_true, List.all_eq_true] at proper
  exact proper.2

private theorem lines_proper (proper : page.isProper = true) :
    ∀ line ∈ page.lines, line.isProper = true := by
  simp only [lines, List.forall_mem_flatMap]
  exact fun entry member => Entry.proper_lines (entries_proper proper entry member)

end Page

/-- The first of the lines of entries is not indented. -/
theorem Entry.column_head {entries : List Entry}
    (proper : ∀ entry ∈ entries, entry.isProper = true) :
    ∀ line ∈ (entries.flatMap lines).head?, line.column = 0 := by
  cases entries with
  | nil => simp
  | cons entry entries =>
    rintro line ⟨⟩
    exact column_eq_zero (proper entry List.mem_cons_self)

private theorem Entry.isChain_flatMap {entries : List Entry}
    (proper : ∀ entry ∈ entries, entry.isProper = true) :
    (entries.flatMap lines).IsChain Line.Precedes := by
  induction entries with
  | nil => exact .nil
  | cons entry entries ih =>
    obtain ⟨here, proper⟩ := List.forall_mem_cons.mp proper
    refine List.isChain_append.mpr ⟨isChain_lines here, ih proper, fun line _ next head _ => ?_⟩
    rw [column_head proper next head]
    exact Nat.zero_le _

private theorem Entry.tokens_flatMap {entries : List Entry}
    (proper : ∀ entry ∈ entries, entry.isProper = true) :
    Line.tokens [0] (entries.flatMap lines) =
      spelling (·.line.key) valueTokens entries ++ [.blockEnd] := by
  induction entries with
  | nil => rfl
  | cons entry entries ih =>
    obtain ⟨here, proper⟩ := List.forall_mem_cons.mp proper
    rw [List.flatMap_cons, tokens_lines here (column_head proper), ih proper]
    simp [spelling]

namespace Page

variable {page : Page}

private theorem tokens?_text (proper : page.isProper = true) :
    tokens? page.text = some (Line.tokens [] page.lines) :=
  tokens?_lines (margins_proper proper) (lines_proper proper)
    (Entry.isChain_flatMap (entries_proper proper)) (Entry.column_head (entries_proper proper))
    String.toList_ofList

/-- The tokens of a page are those of its mapping, if there is one. -/
theorem tokens_lines (proper : page.isProper = true) (entries : page.entries ≠ []) :
    Line.tokens [] page.lines = .blockMappingStart ::
      (spelling (·.line.key) Entry.valueTokens page.entries ++ [.blockEnd]) := by
  rw [← Entry.tokens_flatMap (entries_proper proper), lines]
  cases same : page.entries with
  | nil => exact absurd same entries
  | cons entry others =>
    have zero := Entry.column_eq_zero (entries_proper proper entry (by simp [same]))
    have level := @Line.tokens_level entry.line (entry.inner ++ others.flatMap Entry.lines) []
    have inward := @Line.tokens_inward entry.line (entry.inner ++ others.flatMap Entry.lines) [] rfl
    rw [zero] at level inward
    rw [List.flatMap_cons, Entry.lines, List.cons_append, inward, level]

/-- A page is read as what stands on it. -/
theorem parse?_text (proper : page.isProper = true) : parse? page.text = some page.node := by
  rw [parse?, tokens?_text proper, Option.bind_some]
  by_cases entries : page.entries = []
  · simp only [node, lines, entries]
    rfl
  · let tokens := spelling (·.line.key) Entry.valueTokens page.entries
    have spells (entry : Entry) (member : entry ∈ page.entries) :
        Spells (tokens.length + 6) entry.node entry.valueTokens := by
      have inner := entry.length_inner_le
      have value : entry.valueTokens.length ≤ tokens.length := length_value_le_spelling member
      exact entry.spells_node.mono (by omega)
    have many : page.entries.length ≤ tokens.length := length_le_spelling
    have total : (.blockMappingStart :: (tokens ++ [.blockEnd])).length = tokens.length + 2 := by
      simp
    have read := @node?_spelled (4 * (tokens.length + 2) + 4) (tokens.length + 6) knownHandles false
      ⟨[], []⟩ [] Entry (·.line.key) Entry.node Entry.valueTokens page.entries spells (by omega)
      (by omega)
    have written : document? (.blockMappingStart :: (tokens ++ [.blockEnd])) =
        some (mapping (page.entries.map fun entry => (entry.line.key.node, entry.node)), []) := by
      rw [document?, if_neg (by simp), if_neg (by simp [startsDocument])]
      rw [← total] at read
      exact congrArg (Option.map fun found => (found.1, found.2.tokens)) read
    rw [tokens_lines proper entries, ofTokens?, written, node, if_neg (by simpa using entries)]
    rfl

/-- A page is read as a record with its fields. -/
theorem fields?_node (page : Page) : Document.fields? page.node = some page.fields := by
  have key (phrase : Phrase) : scalarText? phrase.node = some (String.ofList phrase.text) := by
    obtain ⟨style, text⟩ := phrase
    cases style <;> rfl
  unfold node
  split
  · next empty =>
    rw [fields, List.isEmpty_iff.mp empty]
    rfl
  · simp only [Document.fields?, untagged, List.mapM_map, Function.comp_def, key, Option.map_some]
    exact (List.mapM_pure ..)

end Page

end BatchChanges.Yaml
