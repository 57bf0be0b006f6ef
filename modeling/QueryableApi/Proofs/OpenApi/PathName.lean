import QueryableApi.OpenApi.PathName
import QueryableApi.Proofs.PathTemplate

/-! # The parents of a collection

The name of a collection is read off its path segment by segment. A placeholder adds one parent, and any
other segment none (`Naming.length_parents_of_read`), so a collection has as many parents as its path
has placeholders (`length_parents_of_collectionName?`). The name it leaves for the segments behind it is
that of the last parent (`Naming.fullName_of_read`). A placeholder needs a collection before it, so
no path with a name starts with one (`isPlaceholder_first`). -/

namespace QueryableApi.OpenApi

open PathTemplate (isPlaceholder segments placeholders)

variable {n m : Naming} {segment : List Char} {path name : String} {parents : Option Parents}

namespace Naming

/-- A placeholder is read only behind a collection. -/
theorem exists_collection_of_read (h : n.read segment = some m)
    (hplaceholder : isPlaceholder segment = true) : ∃ name, n.collection = some name := by
  rw [read, PathTemplate.isBraced_eq, if_pos hplaceholder] at h
  obtain ⟨name, hname, -⟩ := Option.map_eq_some_iff.mp h
  exact ⟨name, hname⟩

/-- **One segment** adds a parent iff it is a placeholder. -/
theorem length_parents_of_read (h : n.read segment = some m) :
    m.parents.length = n.parents.length + if isPlaceholder segment then 1 else 0 := by
  rw [read, PathTemplate.isBraced_eq] at h
  split
  · next hplaceholder =>
    rw [if_pos hplaceholder] at h
    obtain ⟨name, -, rfl⟩ := Option.map_eq_some_iff.mp h
    exact List.length_append
  · next hfixed =>
    rw [if_neg hfixed] at h
    -- a version and a collection leave the parents alone
    split at h
    all_goals
      obtain rfl := Option.some.inj h
      rfl

/-- **All segments** add as many parents as there are placeholders. -/
theorem length_parents_of_ofSegments {path : List (List Char)} (h : n.ofSegments path = some m) :
    m.parents.length = n.parents.length + path.countP isPlaceholder := by
  induction path generalizing n with
  | nil =>
      obtain rfl := Option.some.inj h
      rfl
  | cons segment rest ih =>
      obtain ⟨next, hread, hrest⟩ := Option.bind_eq_some_iff.mp h
      rw [ih hrest, length_parents_of_read hread, List.countP_cons]
      omega

/-- The **full name is that of the last parent**, as long as segments are read. -/
theorem fullName_of_read (h : n.read segment = some m) (hn : n.fullName = n.parents.getLast?) :
    m.fullName = m.parents.getLast? := by
  rw [read] at h
  split at h
  · obtain ⟨name, -, rfl⟩ := Option.map_eq_some_iff.mp h
    exact List.getLast?_concat.symm
  · -- a version and a collection leave both alone
    split at h
    all_goals
      obtain rfl := Option.some.inj h
      exact hn

/-- It is that after all segments. -/
theorem fullName_of_ofSegments {path : List (List Char)} (h : n.ofSegments path = some m)
    (hn : n.fullName = n.parents.getLast?) : m.fullName = m.parents.getLast? := by
  induction path generalizing n with
  | nil =>
      obtain rfl := Option.some.inj h
      exact hn
  | cons segment rest ih =>
      obtain ⟨next, hread, hrest⟩ := Option.bind_eq_some_iff.mp h
      exact ih hrest (fullName_of_read hread hn)

end Naming

/-- The names of the parents of a collection. -/
def parentNames (parents : Option Parents) : List String := parents.elim [] Parents.names

/-- What the name of a collection is made of. -/
theorem exists_naming_of_collectionName? (h : collectionName? path = some (name, parents)) :
    ∃ naming last, Naming.ofSegments {} ((segments path).filter fun s => !s.isEmpty) = some naming ∧
      naming.collection = some last ∧ name = joinName naming.fullName last ∧
      parents = naming.fullName.map fun full => ⟨naming.parents, full⟩ := by
  obtain ⟨naming, hnaming, h⟩ := Option.bind_eq_some_iff.mp h
  obtain ⟨last, hlast, h⟩ := Option.bind_eq_some_iff.mp h
  obtain ⟨rfl, rfl⟩ := Prod.mk.inj (Option.some.inj h)
  exact ⟨naming, last, hnaming, hlast, rfl, rfl⟩

/-- The parents of a collection are those that were read. -/
theorem parentNames_fullName {path : List (List Char)} (h : Naming.ofSegments {} path = some n) :
    parentNames (n.fullName.map fun full => ⟨n.parents, full⟩) = n.parents := by
  rw [Naming.fullName_of_ofSegments h rfl, parentNames]
  cases hlast : n.parents.getLast? with
  | none => exact (List.getLast?_eq_none_iff.mp hlast).symm
  | some full => rfl

/-- **The full name of the parents** is that of the last one. -/
theorem getLast?_parentNames (h : collectionName? path = some (name, parents)) :
    (parentNames parents).getLast? = parents.map Parents.fullName := by
  obtain ⟨naming, last, hnaming, -, -, rfl⟩ := exists_naming_of_collectionName? h
  rw [parentNames_fullName hnaming, ← Naming.fullName_of_ofSegments hnaming rfl, Option.map_map]
  exact Option.map_id'.symm

/-- The properties of parents are those of their names. -/
theorem properties_eq (parents : Option Parents) :
    parents.elim [] Parents.properties = (parentNames parents).map Parents.propertyOf := by
  cases parents <;> rfl

/-- **A collection has a parent for each placeholder** of its path. -/
theorem length_parentNames (h : collectionName? path = some (name, parents)) :
    (parentNames parents).length = (placeholders path).length := by
  obtain ⟨naming, last, hnaming, -, -, rfl⟩ := exists_naming_of_collectionName? h
  rw [parentNames_fullName hnaming, Naming.length_parents_of_ofSegments hnaming,
    PathTemplate.length_placeholders, List.countP_filter, List.length_nil, Nat.zero_add]
  -- the empty segments that are passed over are no placeholders
  refine List.countP_congr fun s _ => ?_
  cases s with
  | nil => simp [PathTemplate.isPlaceholder_nil]
  | cons c rest => simp

/-- **A collection has a parent property for each placeholder** of its path. -/
theorem length_parents_of_collectionName? (h : collectionName? path = some (name, parents)) :
    (parents.elim [] Parents.properties).length = (placeholders path).length := by
  rw [properties_eq, List.length_map, length_parentNames h]

/-- A path with a name does not start with a placeholder. -/
theorem isPlaceholder_first {first : List Char} {rest : List (List Char)}
    (h : collectionName? path = some (name, parents)) (hpath : segments path = first :: rest) :
    isPlaceholder first = false := by
  obtain ⟨naming, last, hnaming, -⟩ := exists_naming_of_collectionName? h
  cases first with
  | nil => exact PathTemplate.isPlaceholder_nil
  | cons c first =>
      rw [hpath, List.filter_cons_of_pos rfl] at hnaming
      obtain ⟨next, hread, -⟩ := Option.bind_eq_some_iff.mp hnaming
      refine Bool.eq_false_iff.mpr fun hplaceholder => ?_
      -- nothing is read before the first segment
      obtain ⟨name, hname⟩ := Naming.exists_collection_of_read hread hplaceholder
      cases hname

end QueryableApi.OpenApi
