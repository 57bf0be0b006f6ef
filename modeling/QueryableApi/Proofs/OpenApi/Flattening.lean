import Mathlib.Data.List.Forall2
import QueryableApi.Proofs.OpenApi.Expansion
import QueryableApi.Proofs.OpenApi.ItemNames
import QueryableApi.Proofs.OpenApi.ObjectWalk

/-! # Flattening schemas

The **flattening** of a schema visits the target of a reference in its place, or nothing if it dangles,
and any other schema itself and then each part it combines with `allOf`, in order (`Flattens`). It has no
frames and remembers nothing: what is reached twice is visited twice. The walk that collects members
includes one visited schema after the other if every path fits into its frames (`collect_eq_foldl`). So
the schema of an object has a property for each member of the visited schemas, the first of each name, and
a property is required if any of them lists its name (`objectSchema_flattens`). -/

namespace QueryableApi.OpenApi

variable {root schema found : Json} {reference : String} {room : Nat} {active : List (List Char)}
  {known : Members} {visited others path : List Json}

/-! ## Members -/

namespace Members

/-- Members are added in one go or in two. -/
theorem add_append (known : Entries Json) (first second : List (String × Json)) :
    add known (first ++ second) = add (add known first) second := by
  induction first generalizing known with
  | nil => rfl
  | cons m rest ih =>
      obtain ⟨name, schema⟩ := m
      rw [List.cons_append, add, add]
      split
      · exact ih known
      · exact ih _

/-- Including schemas one after the other adds what all of them declare. -/
theorem foldl_including (known : Members) (visited : List Json) :
    visited.foldl including known =
      ⟨add known.properties (visited.flatMap ownMembers),
        known.required ++ visited.flatMap ownRequired⟩ := by
  induction visited generalizing known with
  | nil => rw [List.foldl_nil, List.flatMap_nil, List.flatMap_nil, List.append_nil, add]
  | cons schema rest ih =>
      rw [List.foldl_cons, ih, including, List.flatMap_cons, List.flatMap_cons, add_append,
        List.append_assoc]

/-- Members are appended behind the known ones, the first of each new name. -/
theorem add_eq (known : Entries Json) (members : List (String × Json)) :
    add known members = known ++
      (members.filter fun m => !Entries.contains m.1 known).eraseDupsBy fun m n => m.1 == n.1 := by
  induction members generalizing known with
  | nil => exact (List.append_nil known).symm
  | cons m rest ih =>
      obtain ⟨name, schema⟩ := m
      rw [add]
      split
      · next hknown => rw [ih, List.filter_cons_of_neg (by simpa using hknown)]
      · next hnew =>
        -- what has the name of the first one is dropped together with what is known already
        have hnames : ∀ m : String × Json, (!Entries.contains m.1 (known ++ [(name, schema)])) =
            (decide ((m.1 == name) = false) && !Entries.contains m.1 known) := by
          intro m
          rw [Entries.contains, Entries.get?_append, Option.isSome_or, Entries.get?_cons]
          by_cases hname : name = m.1
          · simp [hname]
          · simp [hname, Ne.symm hname, Entries.contains]
        rw [ih, List.filter_cons_of_pos (by simpa using hnew), List.eraseDupsBy_cons,
          List.filter_filter, List.append_assoc, List.singleton_append]
        simp only [hnames]

/-- Where nothing is known, the first member of each name is added. -/
theorem add_nil (members : List (String × Json)) :
    add [] members = members.eraseDupsBy fun m n => m.1 == n.1 := by
  rw [add_eq, List.nil_append, List.filter_eq_self.mpr]
  exact fun _ _ => rfl

end Members

/-! ## The flattening -/

/-- A schema **flattens** to the schemas that are visited, each followed by those under it. -/
inductive Flattens (root : Json) : Json → List Json → Prop
  /-- A reference stands for its target, whatever else it says. -/
  | target {schema found : Json} {reference : String} {visited : List Json}
      (href : reference? schema = some reference) (hfound : target? root reference = some found)
      (below : Flattens root found visited) : Flattens root schema visited
  /-- A reference that dangles stands for nothing. -/
  | dangling {schema : Json} {reference : String}
      (href : reference? schema = some reference) (hnone : target? root reference = none) :
      Flattens root schema []
  /-- Any other schema is visited before the parts it combines. -/
  | merged {schema : Json} {visited : List (List Json)} (href : reference? schema = none)
      (below : List.Forall₂ (Flattens root) (partsOf schema) visited) :
      Flattens root schema (schema :: visited.flatten)

/-- A reference flattens as its target does. -/
theorem flattens_target_iff (href : reference? schema = some reference)
    (hfound : target? root reference = some found) :
    Flattens root schema visited ↔ Flattens root found visited := by
  refine ⟨fun h => ?_, .target href hfound⟩
  cases h with
  | target href' hfound' below =>
      obtain rfl := Option.some.inj (href.symm.trans href')
      obtain rfl := Option.some.inj (hfound.symm.trans hfound')
      exact below
  | dangling href' hnone =>
      obtain rfl := Option.some.inj (href.symm.trans href')
      cases hfound.symm.trans hnone
  | merged hnone _ => cases href.symm.trans hnone

/-- A reference that dangles flattens to nothing. -/
theorem flattens_dangling_iff (href : reference? schema = some reference)
    (hnone : target? root reference = none) : Flattens root schema visited ↔ visited = [] := by
  refine ⟨fun h => ?_, fun h => h ▸ .dangling href hnone⟩
  cases h with
  | target href' hfound _ =>
      obtain rfl := Option.some.inj (href.symm.trans href')
      cases hnone.symm.trans hfound
  | dangling => rfl
  | merged href' _ => cases href.symm.trans href'

/-- Any other schema flattens to itself and what its parts flatten to. -/
theorem flattens_merged_iff (href : reference? schema = none) :
    Flattens root schema others ↔ ∃ visited,
      List.Forall₂ (Flattens root) (partsOf schema) visited ∧ others = schema :: visited.flatten := by
  refine ⟨fun h => ?_, fun ⟨_, below, h⟩ => h ▸ .merged href below⟩
  cases h with
  | target href' _ _ => cases href.symm.trans href'
  | dangling href' _ => cases href.symm.trans href'
  | merged _ below => exact ⟨_, below, rfl⟩

/-- If each of some schemas flattens in one way, so does the row of them. -/
theorem exists_flattened {parts : List Json}
    (h : ∀ part ∈ parts, ∃ visited, ∀ others, Flattens root part others ↔ others = visited) :
    ∃ visited, ∀ others, List.Forall₂ (Flattens root) parts others ↔ others = visited := by
  induction parts with
  | nil => exact ⟨[], fun _ => List.forall₂_nil_left_iff⟩
  | cons part rest ih =>
      obtain ⟨first, hfirst⟩ := h part List.mem_cons_self
      obtain ⟨visited, hrest⟩ := ih fun other hother => h other (List.mem_cons_of_mem part hother)
      refine ⟨first :: visited, fun others => ?_⟩
      simp only [List.forall₂_cons_left_iff, hfirst, hrest, exists_and_left, exists_eq_left]

/-- **A schema whose paths fit flattens in one way.** -/
theorem exists_flattens (hfits : fitsWithin root room active schema = true) :
    ∃ visited, ∀ others, Flattens root schema others ↔ others = visited := by
  induction room generalizing active schema with
  | zero => cases hfits
  | succ room ih =>
      have hnext := (fitsWithin_succ_iff.mp hfits).2
      cases href : reference? schema with
      | some reference =>
          cases hfound : target? root reference with
          | none => exact ⟨[], fun _ => flattens_dangling_iff href hfound⟩
          | some found =>
              obtain ⟨visited, h⟩ := ih (hnext found (expands_of_target href hfound))
              exact ⟨visited, fun others => (flattens_target_iff href hfound).trans (h others)⟩
      | none =>
          obtain ⟨visited, h⟩ := exists_flattened fun part hpart =>
            ih (hnext part ((expands_iff_of_none href).mpr hpart))
          refine ⟨schema :: visited.flatten, fun others => ?_⟩
          simp only [flattens_merged_iff href, h, exists_eq_left]

/-! ## Collecting members -/

/-- Walks that include what is visited one after the other include all of it. -/
theorem foldl_flatten {inner : Members → Json → Members} {parts : List Json}
    {visited : List (List Json)} (h : List.Forall₂ (Flattens root) parts visited)
    (hinner : ∀ part ∈ parts, ∀ known visited, Flattens root part visited →
      inner known part = visited.foldl Members.including known) (known : Members) :
    parts.foldl inner known = visited.flatten.foldl Members.including known := by
  induction h generalizing known with
  | nil => rfl
  | cons first _ ih =>
      rw [List.foldl_cons, List.flatten_cons, List.foldl_append,
        hinner _ List.mem_cons_self known _ first]
      exact ih (fun part hpart => hinner part (List.mem_cons_of_mem _ hpart)) _

/-- **Collecting members includes one visited schema after the other.** -/
theorem collect_eq_foldl (hflat : Flattens root schema visited)
    (hfits : fitsWithin root room active schema = true) (known : Members) :
    collect root room active known schema = visited.foldl Members.including known := by
  -- on the frames that may still be opened: a reference and each part of a schema take one
  induction room generalizing active known schema visited with
  | zero => cases hfits
  | succ room ih =>
      obtain ⟨hnew, hnext⟩ := fitsWithin_succ_iff.mp hfits
      cases hflat with
      | target href hfound below =>
          have hbelow := hnext _ (expands_of_target href hfound)
          rw [href] at hnew hbelow
          rw [collect_of_reference href hnew, hfound]
          exact ih below hbelow known
      | dangling href hnone =>
          rw [href] at hnew
          rw [collect_of_reference href hnew, hnone]
          rfl
      | merged href below =>
          rw [collect_of_none href, List.foldl_cons]
          refine foldl_flatten below (fun part hpart known visited hpartFlat => ?_) _
          have hbelow := hnext part ((expands_iff_of_none href).mpr hpart)
          rw [href] at hbelow
          exact ih hpartFlat hbelow known

/-! ## Schemas of objects -/

/-- A path **follows** a schema to what it stands for: the schemas that are references to the next one,
and the one that is none or dangles. -/
inductive Follows (root : Json) : Json → List Json → Prop
  /-- The schema stands for itself. -/
  | here {schema : Json} (hnone : (reference? schema).bind (target? root) = none) :
      Follows root schema [schema]
  /-- The schema stands for what its target stands for. -/
  | target {schema found : Json} {path : List Json}
      (hfound : (reference? schema).bind (target? root) = some found)
      (below : Follows root found path) : Follows root schema (schema :: path)

/-- A schema whose paths fit can be followed. -/
theorem exists_follows (hfits : fitsWithin root room active schema = true) :
    ∃ path, Follows root schema path := by
  induction room generalizing active schema with
  | zero => cases hfits
  | succ room ih =>
      cases hfound : (reference? schema).bind (target? root) with
      | none => exact ⟨[schema], .here hfound⟩
      | some found =>
          obtain ⟨reference, href, htarget⟩ := Option.bind_eq_some_iff.mp hfound
          obtain ⟨path, hpath⟩ :=
            ih ((fitsWithin_succ_iff.mp hfits).2 found (expands_of_target href htarget))
          exact ⟨schema :: path, .target hfound hpath⟩

/-- **The schema of an object** has a property for each member that the visited schemas declare. The
frames that are followed to the object stay open while what is nested in it is read. -/
theorem objectWithin_eq (hpath : Follows root schema path) (hflat : Flattens root schema visited)
    (hfits : fitsWithin root room active schema = true) :
    objectWithin root (room + 1) active schema =
      (visited.foldl Members.including {}).properties.map fun m =>
        propertyOf root
          (objectWithin root (room + 1 - path.length) ((references path).reverse ++ active)) m.1 m.2
          ((visited.foldl Members.including {}).required.contains m.1) := by
  induction hpath generalizing room active visited with
  | @here schema hnone =>
      cases href : reference? schema with
      | some reference =>
          -- a reference that dangles has no members
          have hnew := isActive_of_fitsWithin hfits
          rw [href] at hnew hnone
          have hdangling : target? root reference = none := hnone
          obtain rfl := (flattens_dangling_iff href hdangling).mp hflat
          rw [objectWithin_of_reference href hnew, hdangling]
          rfl
      | none =>
          rw [objectWithin_of_none href, collect_eq_foldl hflat hfits, references,
            List.filterMap_cons_none (by rw [href]; rfl)]
          rfl
  | @target schema found path hfound below ih =>
      obtain ⟨reference, href, htarget⟩ := Option.bind_eq_some_iff.mp hfound
      cases room with
      | zero => cases hfits
      | succ room =>
          obtain ⟨hnew, hnext⟩ := fitsWithin_succ_iff.mp hfits
          have hbelow := hnext found (expands_of_target href htarget)
          rw [href] at hnew hbelow
          rw [objectWithin_of_reference href hnew, htarget, Option.elim_some,
            ih ((flattens_target_iff href htarget).mp hflat) hbelow, List.length_cons,
            Nat.add_sub_add_right, references, references,
            List.filterMap_cons_some (by rw [href]; rfl), List.reverse_cons, List.append_assoc]
          rfl

/-- **The schema of an object is its flattening**, if every path its expansion takes meets no reference
twice and is shorter than frames may be opened: it flattens in one way, and there is a property for each
member that the visited schemas declare, in order and the first of each name. A property is required iff
any visited schema lists its name. This is what every walk through the schema reads that starts with no
frame open, and then none is open again. -/
theorem objectSchema_flattens
    (hfits : ∀ path, (schema :: path).IsChain (Expands root) →
      (schema :: path).length < maxFrames ∧ (references (schema :: path)).Nodup) :
    ∃ visited path, (∀ others, Flattens root schema others ↔ others = visited) ∧
      Follows root schema path ∧
      (∀ objects left, ObjectWalk root .fresh schema objects left ↔
        objects = objectSchema root schema ∧ left = .fresh) ∧
      (objectSchema root schema =
        ((visited.flatMap ownMembers).eraseDupsBy fun m n => m.1 == n.1).map fun m =>
          propertyOf root (objectWithin root (maxFrames - path.length) (references path).reverse)
            m.1 m.2 ((visited.flatMap ownRequired).contains m.1)) ∧
      ∀ p ∈ objectSchema root schema,
        p.required = true ↔ ∃ source ∈ visited, p.name ∈ ownRequired source := by
  have hwithin : fitsWithin root 127 [] schema = true := fitsWithin_nil_iff.mpr hfits
  obtain ⟨visited, hflat⟩ := exists_flattens hwithin
  obtain ⟨path, hpath⟩ := exists_follows hwithin
  have hschema : objectSchema root schema =
      ((visited.flatMap ownMembers).eraseDupsBy fun m n => m.1 == n.1).map fun m =>
        propertyOf root (objectWithin root (maxFrames - path.length) (references path).reverse)
          m.1 m.2 ((visited.flatMap ownRequired).contains m.1) := by
    -- the object itself is entered once more when its members are collected
    have heq := objectWithin_eq hpath ((hflat visited).mpr rfl) hwithin
    rw [Members.foldl_including, List.append_nil, List.nil_append, Members.add_nil] at heq
    exact heq
  refine ⟨visited, path, hflat, hpath, fun _ _ => objectWalk_iff, hschema, fun p hp => ?_⟩
  rw [hschema] at hp
  obtain ⟨m, -, rfl⟩ := List.mem_map.mp hp
  rw [required_propertyOf, (name_propertyOf _ _ _).1, List.contains_iff_mem, List.mem_flatMap]

/-! ## A schema that is reached twice -/

/-- A reference to a definition. -/
def definition (name : String) : Json := .object [("$ref", .string ("#/definitions/" ++ name))]

/-- A document with named and with sized resources, which both include what every resource has. -/
def resourcesDocument : Json :=
  let property (type : String) : Json := .object [("type", .string type)]
  let resource := .object [("required", .array [.string "id"]),
    ("properties", .object [("id", property "string"), ("label", property "string")])]
  let named := .object [("properties", .object [("name", property "string")]),
    ("allOf", .array [definition "Resource"])]
  let sized := .object [("required", .array [.string "label"]),
    ("properties", .object [("label", property "integer"), ("size", property "integer")]),
    ("allOf", .array [definition "Resource"])]
  .object [("definitions", .object [("Resource", resource), ("Named", named), ("Sized", sized)])]

/-- A volume is a named and a sized resource. -/
def volume : Json := .object [("allOf", .array [definition "Named", definition "Sized"])]

/-- What every resource has is visited twice under a volume, and declares the label that stays. -/
theorem objectSchema_flattens_volume :
    (∀ path, (volume :: path).IsChain (Expands resourcesDocument) →
      (volume :: path).length < maxFrames ∧ (references (volume :: path)).Nodup) ∧
    ∃ visited, Flattens resourcesDocument volume visited ∧
      visited.map ownRequired = [[], [], ["id"], ["label"], ["id"]] ∧
      (objectSchema resourcesDocument volume).map (fun p => (p.name, p.declaredType, p.required)) =
        [("name", "string", false), ("id", "string", true), ("label", "string", true),
          ("size", "integer", false)] ∧
      ∀ p ∈ objectSchema resourcesDocument volume,
        p.required = true ↔ ∃ source ∈ visited, p.name ∈ ownRequired source := by
  have hfits : ∀ path, (volume :: path).IsChain (Expands resourcesDocument) →
      (volume :: path).length < maxFrames ∧ (references (volume :: path)).Nodup :=
    fitsWithin_nil_iff.mp (rfl : fitsWithin resourcesDocument 127 [] volume = true)
  obtain ⟨visited, path, hflat, -, -, -, hrequired⟩ := objectSchema_flattens hfits
  obtain ⟨others, hothers, hown⟩ : ∃ others, Flattens resourcesDocument volume others ∧
      others.map ownRequired = [[], [], ["id"], ["label"], ["id"]] :=
    ⟨_, .merged rfl (.cons (.target rfl rfl (.merged rfl (.cons (.target rfl rfl (.merged rfl .nil)) .nil)))
      (.cons (.target rfl rfl (.merged rfl (.cons (.target rfl rfl (.merged rfl .nil)) .nil))) .nil)), rfl⟩
  obtain rfl := (hflat others).mp hothers
  exact ⟨hfits, others, hothers, hown, rfl, hrequired⟩

end QueryableApi.OpenApi
