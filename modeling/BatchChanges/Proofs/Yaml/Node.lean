import BatchChanges.Proofs.Yaml.Phrase
import BatchChanges.Yaml.Reader

/-! # Nodes from tokens

What the key or the value of an entry is read as is known by its tokens, wherever they stand. A
mapping is read by its entries, so the nodes of nested mappings follow from those inside.
-/

namespace BatchChanges.Yaml

/-- These tokens are read as a node where they are the key or the value of an entry, if `need` steps
are left. -/
def Spells (need : Nat) (node : Yaml) (tokens : List Token) : Prop :=
  ∀ ⦃fuel : Nat⦄ ⦃handles : List (String × String)⦄ ⦃reading : Reading⦄ ⦃rest : List Token⦄,
    need ≤ fuel → endsEntry rest = true →
    entryPart? fuel handles (reading.onward (tokens ++ rest)) = some (node, reading.onward rest)

variable {fuel need : Nat} {handles : List (String × String)} {block level : Bool}
  {reading : Reading} {rest : List Token}

/-- What stands without an anchor and a tag is read as it is. -/
theorem node?_bare {token : Token} (alias_free : ∀ name, token ≠ .alias name)
    (bare : properties (token :: rest) = (none, none, token :: rest)) :
    node? (fuel + 1) handles block level (reading.onward (token :: rest)) =
      content? fuel handles block level false (reading.onward (token :: rest)) := by
  rw [node?]
  split
  · next name others same => exact absurd (List.cons.inj same).1 (alias_free name)
  · simp only [Reading.onward, bare, Reading.startNode, Option.isSome_none, Bool.or_self]
    cases content? fuel handles block level false ⟨token :: rest, reading.anchors⟩ <;> rfl

theorem spells_absent : Spells 1 absent [] := by
  intro fuel handles reading rest enough ends
  obtain ⟨fuel, rfl⟩ := Nat.exists_eq_add_of_le' enough
  rw [entryPart?, if_pos (by exact ends)]
  rfl

theorem spells_phrase (phrase : Phrase) : Spells 3 phrase.node [phrase.token] := by
  intro fuel handles reading rest enough ends
  obtain ⟨fuel, rfl⟩ := Nat.exists_eq_add_of_le' enough
  obtain ⟨style, text⟩ := phrase
  rw [entryPart?, if_neg (by simp [endsEntry, Reading.onward, Phrase.token]), List.singleton_append,
    Phrase.token, node?_bare (by simp) rfl]
  cases style <;> rfl

theorem Spells.mono {node : Yaml} {tokens : List Token} {more : Nat}
    (spells : Spells need node tokens) (enough : need ≤ more) : Spells more node tokens :=
  fun _ _ _ _ left ends => spells (Nat.le_trans enough left) ends

def spelling {α : Type} (key : α → Phrase) (tokens : α → List Token) (entries : List α) :
    List Token :=
  entries.flatMap fun entry => .key :: (key entry).token :: .value :: tokens entry

section Entries

variable {α : Type} {key : α → Phrase} {value : α → Yaml} {tokens : α → List Token}
  {entries : List α}

theorem spelling_cons (entry : α) : spelling key tokens (entry :: entries) =
    .key :: (key entry).token :: .value :: (tokens entry ++ spelling key tokens entries) := rfl

theorem length_le_spelling : entries.length ≤ (spelling key tokens entries).length := by
  induction entries with
  | nil => exact Nat.zero_le _
  | cons entry entries ih =>
    simp only [spelling_cons, List.length_cons, List.length_append]
    omega

theorem length_value_le_spelling {entry : α} (member : entry ∈ entries) :
    (tokens entry).length ≤ (spelling key tokens entries).length := by
  obtain ⟨before, after, rfl⟩ := List.append_of_mem member
  simp only [spelling, List.flatMap_append, List.flatMap_cons, List.length_append, List.length_cons]
  omega

private theorem blockEntries?_spelled
    (spells : ∀ entry ∈ entries, Spells need (value entry) (tokens entry))
    (scalar : 3 ≤ need) (enough : need + entries.length ≤ fuel) :
    blockEntries? fuel handles (reading.onward (spelling key tokens entries ++ .blockEnd :: rest)) =
      some (entries.map fun entry => ((key entry).node, value entry), reading.onward rest) := by
  induction entries generalizing fuel with
  | nil =>
    obtain ⟨fuel, rfl⟩ := Nat.exists_eq_add_of_le' (Nat.le_trans (Nat.le_of_succ_le scalar) enough)
    rfl
  | cons entry entries ih =>
    obtain ⟨here, spells⟩ := List.forall_mem_cons.mp spells
    rw [List.length_cons] at enough
    obtain ⟨fuel, rfl⟩ := Nat.exists_eq_add_of_le' (show 1 ≤ fuel by omega)
    -- After the entry there is another one, or the end of the mapping.
    let others := spelling key tokens entries ++ .blockEnd :: rest
    have ends : endsEntry others = true := by
      cases entries <;> rfl
    have keyed : entryPart? fuel handles
        (reading.onward ((key entry).token :: .value :: (tokens entry ++ others))) =
          some ((key entry).node, reading.onward (.value :: (tokens entry ++ others))) :=
      spells_phrase (key entry) (by omega) rfl
    have valued : entryPart? fuel handles (reading.onward (tokens entry ++ others)) =
        some (value entry, reading.onward others) := here (by omega) ends
    have further := @ih fuel spells (by omega)
    have written : spelling key tokens (entry :: entries) ++ .blockEnd :: rest =
        .key :: (key entry).token :: .value :: (tokens entry ++ others) := by
      simp [others, spelling_cons]
    rw [written, blockEntries?]
    simp only [Reading.onward, Option.bind_eq_bind] at keyed valued further ⊢
    rw [keyed, Option.bind_some]
    simp only [valued, Option.bind_some, others, further]
    rfl

/-- The mapping with these entries, where it may start. -/
theorem node?_spelled (spells : ∀ entry ∈ entries, Spells need (value entry) (tokens entry))
    (scalar : 3 ≤ need) (enough : need + entries.length + 2 ≤ fuel) :
    node? fuel handles true level (reading.onward (.blockMappingStart ::
        (spelling key tokens entries ++ .blockEnd :: rest))) =
      some (mapping (entries.map fun entry => ((key entry).node, value entry)),
        reading.onward rest) := by
  obtain ⟨fuel, rfl⟩ := Nat.exists_eq_add_of_le' (show 2 ≤ fuel by omega)
  have inside := @blockEntries?_spelled fuel need handles reading rest α key value tokens entries
    spells scalar (by omega)
  rw [node?_bare (by simp) rfl, content?]
  simp only [Reading.onward] at inside ⊢
  rw [if_pos trivial, inside, Option.map_some]

theorem spells_mapping (spells : ∀ entry ∈ entries, Spells need (value entry) (tokens entry))
    (scalar : 3 ≤ need) :
    Spells (need + entries.length + 3)
      (mapping (entries.map fun entry => ((key entry).node, value entry)))
      (.blockMappingStart :: (spelling key tokens entries ++ [.blockEnd])) := by
  intro fuel handles reading rest enough _
  obtain ⟨fuel, rfl⟩ := Nat.exists_eq_add_of_le' (show 1 ≤ fuel by omega)
  rw [List.cons_append, List.append_assoc, List.singleton_append, entryPart?,
    if_neg (by simp [endsEntry, Reading.onward])]
  exact node?_spelled spells scalar (by omega)

end Entries

end BatchChanges.Yaml
