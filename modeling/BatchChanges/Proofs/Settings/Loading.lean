import BatchChanges.Cli
import BatchChanges.Proofs.Codec.Fields
import BatchChanges.Proofs.Settings.Overlay
import BatchChanges.Proofs.Yaml.Numeral
import BatchChanges.Proofs.Yaml.Page

/-! # Settings files

A settings file with a mapping overlays the defaults, in whatever order its lines stand and whatever
else they say. Settings are shown as such a page with all of them on it, so they are loaded again as
they were shown, with the path of the file above them or without it.
-/

namespace BatchChanges

open Yaml

namespace Settings

variable {part : Part} {home : String}

/-- A text that is not blank overlays the defaults with the fields it has. -/
theorem load_of_parse? {source : String} {node : Yaml} {fields : Fields Yaml}
    (text : Text.isAllBlank source.toList = false) (parsed : parse? source = some node)
    (record : Document.fields? node = some fields) (shown : part.IsShownBy fields) :
    load home (some (.text source)) = .ok (part.filled {}) := by
  have found : ofYaml? source = some (part.filled {}) := by
    rw [ofYaml?, parsed, Option.bind_some, shown.read? record]
  simp only [load, FileContent.text?, text, found, Bool.false_eq_true, if_false]

private theorem filled_of_nothing (shown : part.IsShownBy (V := Yaml) []) :
    part.filled {} = {} := by
  have nothing : Document.fields? absent = some [] := rfl
  have defaults : Settings.read? absent = some {} := rfl
  exact Option.some.inj ((shown.read? nothing).symm.trans defaults)

private theorem entries_of_isAllBlank {page : Page}
    (blank : Text.isAllBlank page.text.toList = true) : page.entries = [] := by
  cases entries : page.entries with
  | nil => rfl
  | cons entry others =>
    have colon : ':' ∈ page.text.toList := by
      simp [Page.text, Page.lines, entries, Entry.lines, Line.chars, Line.content]
    have white := List.all_eq_true.mp blank ':' colon
    cases white

/-- A page overlays the defaults with what stands on it. -/
theorem load_page {page : Page} (proper : page.isProper = true)
    (shown : part.IsShownBy page.fields) :
    load home (some (.text page.text)) = .ok (part.filled {}) := by
  cases blank : Text.isAllBlank page.text.toList with
  | false => exact load_of_parse? blank (Page.parse?_text proper) page.fields?_node shown
  | true =>
    rw [Page.fields, entries_of_isAllBlank blank, List.map_nil] at shown
    simp only [load, FileContent.text?, blank, if_true, filled_of_nothing shown]

def numberLine (column : Nat) (name : String) (number : Nat) (others : List Margin := []) :
    Line where
  column
  key := ⟨.plain, name.toList⟩
  value := some (0, .numeral number)
  others

/-- The page that settings are shown as, with lines without content before them. -/
def page (settings : Settings) (margins : List Margin) : Page where
  margins
  entries := [
    { line := numberLine 0 "workers" settings.workers.toNat },
    { line := numberLine 0 "poll_interval_ms" settings.pollMilliseconds.toNat },
    { line := numberLine 0 "lease_duration_secs" settings.leaseSeconds.toNat },
    { line := numberLine 0 "sleep_after_push_secs" settings.sleepSeconds.toNat },
    { line := { key := ⟨.plain, "retry".toList⟩ }
      inner := [
        numberLine 2 "max_attempts" settings.retry.maxAttempts.toNat,
        numberLine 2 "min_backoff_secs" settings.retry.minBackoff.toNat,
        numberLine 2 "max_backoff_secs" settings.retry.maxBackoff.toNat [{}]] }]

def whole (settings : Settings) : Part where
  workers := some settings.workers
  pollMilliseconds := some settings.pollMilliseconds
  leaseSeconds := some settings.leaseSeconds
  sleepSeconds := some settings.sleepSeconds
  retry := some ⟨some settings.retry.maxAttempts, some settings.retry.minBackoff,
    some settings.retry.maxBackoff⟩

private theorem isKey_of_mem : ∀ name ∈ fieldNames ++ RetryPolicy.fieldNames,
    (⟨.plain, name.toList⟩ : Phrase).isKey = true := by
  decide

private theorem isProper_numberLine {name : String}
    (known : name ∈ fieldNames ++ RetryPolicy.fieldNames) (column number : Nat)
    {others : List Margin} (blank : others.all Margin.isProper = true) :
    (numberLine column name number others).isProper = true := by
  simp [numberLine, Line.isProper, isKey_of_mem name known, Phrase.isProper_numeral,
    Margin.isProper, Margin.isApart, blank]

private theorem isProper_numberEntry {name : String}
    (known : name ∈ fieldNames ++ RetryPolicy.fieldNames) (number : Nat) :
    ({ line := numberLine 0 name number } : Entry).isProper = true := by
  simp only [Entry.isProper, Entry.lines, List.all_cons, List.all_nil, Bool.and_true,
    isProper_numberLine known 0 number List.all_nil]
  rfl

private theorem isProper_page (settings : Settings) {margins : List Margin}
    (proper : ∀ margin ∈ margins, margin.isProper = true) :
    (settings.page margins).isProper = true := by
  have header : ({ key := ⟨.plain, "retry".toList⟩ } : Line).isProper = true := by decide
  have inner {name : String} (known : name ∈ fieldNames ++ RetryPolicy.fieldNames) (number : Nat)
      (others : List Margin) (blank : others.all Margin.isProper = true) :=
    isProper_numberLine known 2 number blank
  rw [Page.isProper, Bool.and_eq_true]
  refine ⟨List.all_eq_true.mpr proper, List.all_eq_true.mpr ?_⟩
  simp only [page, List.forall_mem_cons]
  refine ⟨isProper_numberEntry (by decide) _, isProper_numberEntry (by decide) _,
    isProper_numberEntry (by decide) _, isProper_numberEntry (by decide) _, ?_,
    List.forall_mem_nil _⟩
  simp only [Entry.isProper, Entry.lines, List.all_cons, List.all_nil, header,
    inner (by decide : "max_attempts" ∈ _) _ [] rfl,
    inner (by decide : "min_backoff_secs" ∈ _) _ [] rfl,
    inner (by decide : "max_backoff_secs" ∈ _) _ [{}] rfl]
  rfl

private theorem text_page (settings : Settings) (margins : List Margin) :
    (settings.page margins).text =
      String.ofList (margins.flatMap fun margin => margin.chars ++ ['\n']) ++ settings.toYaml := by
  apply String.toList_injective
  simp [Page.text, Page.lines, page, Entry.lines, Line.chars, Line.content, Line.pause, Line.lead,
    numberLine, Phrase.chars, Phrase.numeral, Margin.chars, toYaml, yamlNumber, yamlLine]

private theorem isShownBy_page (settings : Settings) (margins : List Margin) :
    settings.whole.IsShownBy (settings.page margins).fields := by
  let numeral (number : Nat) := (Phrase.numeral number).node
  let policy := [("max_attempts", numeral settings.retry.maxAttempts.toNat),
    ("min_backoff_secs", numeral settings.retry.minBackoff.toNat),
    ("max_backoff_secs", numeral settings.retry.maxBackoff.toNat)]
  have fields : (settings.page margins).fields = [
      ("workers", numeral settings.workers.toNat),
      ("poll_interval_ms", numeral settings.pollMilliseconds.toNat),
      ("lease_duration_secs", numeral settings.leaseSeconds.toNat),
      ("sleep_after_push_secs", numeral settings.sleepSeconds.toNat),
      ("retry", mapping (policy.map fun field => (plain field.1, field.2)))] := by
    simp [Page.fields, page, Line.name, numberLine, Entry.node, Line.node, numeral, policy,
      Phrase.node]
  have integer (number : Nat) : Document.integer? (numeral number) = some (number : Int) :=
    integer?_numeral number
  have inner : Document.fields? (mapping (policy.map fun field => (plain field.1, field.2))) =
      some policy := rfl
  have distinct : fieldNames.Nodup ∧ RetryPolicy.fieldNames.Nodup := by decide
  rw [fields]
  refine ⟨fun name _ => Document.isSingle_of_nodup (by exact distinct.1) name, ?_, ?_, ?_, ?_,
    .some ⟨policy, inner, fun name _ => Document.isSingle_of_nodup (by exact distinct.2) name,
      ?_, ?_, ?_⟩⟩ <;>
    simp [Fields.Shows, whole, policy, integer, List.lookup_cons]

/-- Settings are loaded as they are shown, whatever lines without content come first. -/
theorem load_shown (settings : Settings) {margins : List Margin}
    (proper : ∀ margin ∈ margins, margin.isProper = true) :
    load home (some (.text (String.ofList (margins.flatMap fun margin => margin.chars ++ ['\n']) ++
      settings.toYaml))) = .ok settings := by
  rw [← text_page]
  exact load_page (settings.isProper_page proper) (settings.isShownBy_page margins)

private theorem load_commented (settings : Settings) {path : String}
    (line : ∀ c ∈ path.toList, isInline c = true) :
    load home (some (.text ("# " ++ path ++ "\n" ++ settings.toYaml))) = .ok settings := by
  have proper : ∀ margin ∈ [({ comment := some (' ' :: path.toList) } : Margin)],
      margin.isProper = true := by
    simpa [Margin.isProper] using (⟨rfl, line⟩ : isInline ' ' = true ∧ _)
  have text : "# " ++ path ++ "\n" = String.ofList
      ([({ comment := some (' ' :: path.toList) } : Margin)].flatMap fun margin =>
        margin.chars ++ ['\n']) := by
    apply String.toList_injective
    simp [Margin.chars]
  rw [text]
  exact settings.load_shown proper

/-- Settings files overlay the defaults, and settings that are shown are loaded again. Any text that
is read as a record, and in particular any page of block mappings in whatever order, gives what it
shows and leaves everything else at its default, also within the retry policy. The text of any
settings gives those settings, with or without the comment that names the file; so what the program
shows for a file is loaded like the file, unless the path of the file is no text for a comment. -/
theorem loads_over_defaults (home : String) :
    (∀ (source : String) (node : Yaml) (fields : Fields Yaml) (part : Part),
      Text.isAllBlank source.toList = false → parse? source = some node →
      Document.fields? node = some fields → part.IsShownBy fields →
        load home (some (.text source)) = .ok (part.filled {})) ∧
    (∀ (page : Page) (part : Part), page.isProper = true → part.IsShownBy page.fields →
      load home (some (.text page.text)) = .ok (part.filled {})) ∧
    (∀ settings : Settings, load home (some (.text settings.toYaml)) = .ok settings) ∧
    ((∀ c ∈ home.toList, isInline c = true) →
      (∀ settings : Settings,
        load home (some (.text ("# " ++ pathAt home ++ "\n" ++ settings.toYaml))) = .ok settings) ∧
      ∀ (found : Option FileContent) (text : String), Cli.showConfig home found = .success text →
        load home (some (.text text)) = load home found) := by
  refine ⟨fun source node fields part text parsed record shown =>
    load_of_parse? text parsed record shown, fun page part => load_page, fun settings => ?_,
    fun inline => ?_⟩
  · simpa using settings.load_shown (List.forall_mem_nil _)
  · have line : ∀ c ∈ (pathAt home).toList, isInline c = true := by
      rw [pathAt, String.toList_append, List.forall_mem_append]
      exact ⟨inline, List.all_eq_true.mp (by decide)⟩
    refine ⟨fun settings => settings.load_commented line, fun found text shown => ?_⟩
    rw [Cli.showConfig] at shown
    split at shown
    · cases shown
    · next settings loaded =>
      cases shown
      rw [settings.load_commented line, loaded]

/-- One text with brackets, one page with a comment and a name that is not known, and what is shown
where there is no file. -/
theorem loads_over_defaults_partial :
    load "/home/user" (some (.text "{retry: {max_attempts: 5}}")) =
        .ok { retry := { maxAttempts := 5 } } ∧
      load "/home/user" (some (.text
          "retry:\n  max_attempts: 5\n\nnote: \"a: b\" # why\nworkers: 8\n")) =
        .ok { workers := 8, retry := { maxAttempts := 5 } } ∧
      load "/home/user" (some (.text
          ("# /home/user/.batches/config.yaml\n" ++ ({ workers := 8 } : Settings).toYaml))) =
        .ok { workers := 8 } ∧
      load "/home/user" (some (.text
          ("# /home/user/.batches/config.yaml\n" ++ ({} : Settings).toYaml))) =
        load "/home/user" none := by
  let policy : RetryPolicy.Part := { maxAttempts := some 5 }
  let line (column : Nat) (name : String) (phrase : Phrase) : Line :=
    { column, key := ⟨.plain, name.toList⟩, value := some (0, phrase) }
  let page : Page := { entries := [
    { line := { key := ⟨.plain, "retry".toList⟩ }
      inner := [{ line 2 "max_attempts" ⟨.plain, ['5']⟩ with others := [{}] }] },
    { line := { line 0 "note" ⟨.quoted true, "a: b".toList⟩ with
        margin := { blanks := 1, comment := some " why".toList } } },
    { line := { line 0 "workers" ⟨.plain, ['8']⟩ with others := [{}] } }] }
  let node := mapping [(plain "max_attempts", plain "5")]
  have inner : ∃ fields, Document.fields? node = some fields ∧ policy.IsShownBy fields :=
    ⟨_, rfl, by decide, rfl, rfl, rfl⟩
  have tokens : tokens? "{retry: {max_attempts: 5}}" = some [.flowMappingStart, .key,
      .scalar true "retry", .value, .flowMappingStart, .key, .scalar true "max_attempts", .value,
      .scalar true "5", .flowMappingEnd, .flowMappingEnd] := by decide +kernel
  have read : parse? "{retry: {max_attempts: 5}}" = some (mapping [(plain "retry", node)]) := by
    rw [parse?, tokens]
    rfl
  obtain ⟨texts, pages, -, shown⟩ := loads_over_defaults "/home/user"
  obtain ⟨commented, reloads⟩ := shown (List.all_eq_true.mp (by decide))
  refine ⟨?_, ?_, commented { workers := 8 }, reloads none _ rfl⟩
  · exact texts _ (mapping [(plain "retry", node)]) [("retry", node)] { retry := some policy }
      (by decide) read rfl ⟨by decide, rfl, rfl, rfl, rfl, .some inner⟩
  · exact pages page { workers := some 8, retry := some policy } (by decide)
      ⟨by decide, rfl, rfl, rfl, rfl, .some inner⟩

end Settings

end BatchChanges
