import Mathlib.Data.List.DropRight
import QueryableApi.CommandLine
import QueryableApi.Proofs.Filter

/-! # Filters of a command line

The filters and the parents that a command line gives are written into the attributes that a read starts
from, the filters as one block. A filter is written under the name that it was given, trimmed, and so is
read back as it was (`CommandLine.isNamed_of_filter`). The parents are written after the block: it is
there to be read iff no parent has its name (`ReadRequest.requestedFilters_state_iff`). -/

namespace QueryableApi

/-! ## Trimmed texts -/

namespace Text

variable {cs : List Char}

/-- Blanks are dropped only from a text that starts with one. -/
theorem dropBlanks_eq_self (h : ∀ c ∈ cs.head?, isBlank c = false) : dropBlanks cs = cs := by
  cases cs with
  | nil => rfl
  | cons c rest =>
      have hc : isBlank c = false := h c rfl
      rw [dropBlanks, List.dropWhile_cons, hc]
      rfl

/-- Without the blanks at its start, a text starts with none. -/
theorem isBlank_of_mem_head?_dropBlanks {c : Char} (h : c ∈ (dropBlanks cs).head?) :
    isBlank c = false := by
  have hhead := List.head?_dropWhile_not isBlank cs
  rw [dropBlanks, Option.mem_def] at h
  rw [h] at hhead
  exact hhead

/-- The start of a text is kept when the blanks at its end are dropped. -/
theorem mem_head?_of_dropBlanksEnd {c : Char} (h : c ∈ (dropBlanksEnd cs).head?) : c ∈ cs.head? := by
  obtain ⟨blanks, hblanks⟩ := List.rdropWhile_prefix isBlank (l := cs)
  have hprefix : dropBlanksEnd cs ++ blanks = cs := hblanks
  rw [← hprefix]
  cases hend : dropBlanksEnd cs with
  | nil =>
      rw [hend] at h
      cases h
  | cons d rest =>
      rw [hend] at h
      exact h

/-- **A trimmed text is left as it is** by trimming. -/
theorem trim_trim (s : String) : trim (trim s) = trim s := by
  have hstart : dropBlanks (dropBlanksEnd (dropBlanks s.toList))
      = dropBlanksEnd (dropBlanks s.toList) :=
    dropBlanks_eq_self fun c hc => isBlank_of_mem_head?_dropBlanks (mem_head?_of_dropBlanksEnd hc)
  have hend : dropBlanksEnd (dropBlanksEnd (dropBlanks s.toList))
      = dropBlanksEnd (dropBlanks s.toList) :=
    List.rdropWhile_idempotent (p := isBlank) (dropBlanks s.toList)
  rw [trim, trim, String.toList_ofList, hstart, hend]

end Text

/-! ## Words of a command line -/

namespace CommandLine

/-- The key that is found is trimmed, and there is one. -/
theorem trimmed_of_keyValue {word key value : String} (h : keyValue word = .ok (key, value)) :
    key ≠ "" ∧ Text.trim key = key := by
  rw [keyValue] at h
  dsimp only at h
  split at h
  · cases h
  · split at h
    · cases h
    · -- the key is what trimming left, and it is not empty
      next hempty =>
      obtain ⟨rfl, -⟩ := Prod.mk.inj (Except.ok.inj h)
      exact ⟨fun heq => hempty (by rw [heq]; rfl), Text.trim_trim _⟩

/-- **A filter that is accepted has a proper name.** -/
theorem isNamed_of_filter {word : String} {f : FilterEntry} (h : filter word = .ok f) :
    f.IsNamed := by
  obtain ⟨⟨name, values⟩, hkey, h⟩ := Checks.bind_eq_ok_iff.mp h
  obtain rfl := Except.ok.inj h
  obtain ⟨hne, htrim⟩ := trimmed_of_keyValue hkey
  exact ⟨hne, htrim⟩

end CommandLine

/-! ## Requests -/

namespace ReadRequest

variable {r : ReadRequest}

/-- The block that the filters of a request are written as. -/
def block (r : ReadRequest) : Value := .list (r.filters.map FilterEntry.toValue)

/-- Nothing is written for a name under which no parent is given. -/
theorem get?_parents_eq_none_iff {name : String} :
    Entries.get? name (Entries.mapValues Value.text r.parents).reverse = none ↔
      name ∉ r.parents.map Prod.fst := by
  have hkeys : Entries.keys (Entries.mapValues Value.text r.parents) = r.parents.map Prod.fst :=
    Entries.keys_mapValues Value.text r.parents
  rw [Entries.get?_eq_none_iff, Entries.keys, List.map_reverse, List.mem_reverse, ← hkeys,
    Entries.keys]

/-- A parent is written as a text. -/
theorem exists_text_of_parent {name : String} (h : name ∈ r.parents.map Prod.fst) :
    ∃ id, Entries.get? name r.state.attributes = some (.text id) := by
  cases hget : Entries.get? name (Entries.mapValues Value.text r.parents).reverse with
  | none => exact absurd h (get?_parents_eq_none_iff.mp hget)
  | some v =>
      obtain ⟨before, after, hsplit, -⟩ := Entries.get?_eq_some_iff.mp hget
      have hv : (name, v) ∈ Entries.mapValues Value.text r.parents := by
        rw [← List.mem_reverse, hsplit]
        exact List.mem_append_right _ List.mem_cons_self
      obtain ⟨⟨_, id⟩, -, hid⟩ := List.mem_map.mp hv
      obtain ⟨-, rfl⟩ := Prod.mk.inj hid
      refine ⟨id, ?_⟩
      rw [state, Entries.get?_extend, hget]
      rfl

/-- The block of a request is read where no parent is written over it. -/
theorem get?_filterField_state (hfilters : r.filters ≠ [])
    (h : filterField ∉ r.parents.map Prod.fst) :
    Entries.get? filterField r.state.attributes = some r.block := by
  have hblock : r.filters.isEmpty = false := List.isEmpty_eq_false_iff.mpr hfilters
  rw [state, Entries.get?_extend, get?_parents_eq_none_iff.mpr h, hblock]
  rfl

/-- **The filters of a command line are the filters that its read asks for**, none lost, moved or
changed, iff no parent is given under the name of the filter block. -/
theorem requestedFilters_state_iff {words : List String}
    (hfilters : words.mapM CommandLine.filter = .ok r.filters) (hsome : r.filters ≠ []) :
    requestedFilters r.state.attributes = .ok r.filters ↔
      filterField ∉ r.parents.map Prod.fst := by
  have hnamed : ∀ f ∈ r.filters, f.IsNamed := fun f hf => by
    rw [Checks.eq_filterMap_of_mapM hfilters] at hf
    obtain ⟨word, -, hword⟩ := List.mem_filterMap.mp hf
    exact CommandLine.isNamed_of_filter (Checks.toOption_eq_some_iff.mp hword)
  constructor
  · -- a parent that is written over the block leaves a text there, which is no block
    intro h hmem
    obtain ⟨id, hid⟩ := exists_text_of_parent hmem
    rw [requestedFilters, hid] at h
    cases h
  · intro h
    exact requestedFilters_eq (get?_filterField_state hsome h) hnamed

/-- Two filters beside the parent of the rules of a CDN, with blanks around a name. -/
theorem requestedFilters_state_rules :
    ["action=deny", " label =edge,core"].mapM CommandLine.filter
        = .ok [⟨"action", ["deny"]⟩, ⟨"label", ["edge", "core"]⟩] ∧
      ["cdns_v1_id=cdn-1"].mapM CommandLine.keyValue = .ok [("cdns_v1_id", "cdn-1")] ∧
      requestedFilters (ReadRequest.state {
        filters := [⟨"action", ["deny"]⟩, ⟨"label", ["edge", "core"]⟩]
        parents := [("cdns_v1_id", "cdn-1")] }).attributes
          = .ok [⟨"action", ["deny"]⟩, ⟨"label", ["edge", "core"]⟩] := by
  have hwords : ["action=deny", " label =edge,core"].mapM CommandLine.filter
      = .ok [⟨"action", ["deny"]⟩, ⟨"label", ["edge", "core"]⟩] := by rfl
  refine ⟨hwords, by rfl, ?_⟩
  exact (requestedFilters_state_iff hwords (by decide)).mpr (by decide)

/-- **A parent with the name of the filter block** is written over the filters of the command line. -/
theorem requestedFilters_state_lost :
    ["label=edge"].mapM CommandLine.filter = .ok [⟨"label", ["edge"]⟩] ∧
      ["filter=cdn-1"].mapM CommandLine.keyValue = .ok [("filter", "cdn-1")] ∧
      requestedFilters (ReadRequest.state {
        filters := [⟨"label", ["edge"]⟩], parents := [("filter", "cdn-1")] }).attributes
          = .error (.invalidFilter (.notList "string")) :=
  ⟨by rfl, by rfl, by rfl⟩

end ReadRequest

end QueryableApi
