import Mathlib.Logic.Relation
import QueryableApi.Proofs.Checks
import QueryableApi.Proofs.Entries
import QueryableApi.Proofs.OpenApi.TypeWalk

/-! # Schemas with rearranged lists

The type of a schema does not depend on the order in which it lists the schemas that it combines, or the
names of its types, nor on how often it lists them, at any depth (`typeOf_rearranged`): only the types
that occur among them count (`agreed?_eq_some_iff`), and each of them is that of one schema inside the
frames, whatever has been walked before. -/

namespace QueryableApi.OpenApi

variable {root v w : Json} {items others : List Json}

/-! ## Agreement -/

/-- Texts agree on one iff it is among them and no other one is. -/
theorem agreed?_eq_some_iff {texts : List String} {text : String} :
    agreed? texts = some text ↔ text ∈ texts ∧ ∀ t ∈ texts, t = text := by
  rw [agreed?]
  constructor
  · intro h
    split at h
    · next found hfound =>
      obtain rfl := Option.some.inj h
      have hmem : ∀ t, t ∈ texts ↔ t = found := fun t => by
        rw [← List.mem_eraseDups, hfound, List.mem_singleton]
      exact ⟨(hmem found).mpr rfl, fun t ht => (hmem t).mp ht⟩
    · cases h
  · rintro ⟨hmem, hall⟩
    cases texts with
    | nil => cases hmem
    | cons first rest =>
        obtain rfl := hall first List.mem_cons_self
        -- nothing is left of the rest when the first is taken out of it
        have hrest : (rest.filter fun t => !t == first) = [] := by
          rw [List.filter_eq_nil_iff]
          intro t ht
          simp [hall t (List.mem_cons_of_mem _ ht)]
        rw [List.eraseDups_cons, hrest]
        rfl

/-- Whether texts agree depends on which of them occur only. -/
theorem agreed?_congr {texts texts' : List String} (h : ∀ t, t ∈ texts ↔ t ∈ texts') :
    agreed? texts = agreed? texts' := by
  ext text
  rw [agreed?_eq_some_iff, agreed?_eq_some_iff]
  simp only [h]

/-! ## Rearranging -/

/-- The keywords whose lists may be rearranged: that of the type, and those that combine schemas. -/
def rearrangeable : List String := "type" :: combiners.map Prod.fst

/-- **One list is rearranged** somewhere in a value: a list under one of the keywords keeps its elements,
in another order or another number of times. -/
inductive Rearranges : Json → Json → Prop
  /-- The list of a keyword. -/
  | list {before after : Entries Json} {name : String} {items others : List Json}
      (hname : name ∈ rearrangeable) (h : ∀ v, v ∈ items ↔ v ∈ others) :
      Rearranges (.object (before ++ (name, .array items) :: after))
        (.object (before ++ (name, .array others) :: after))
  /-- A list inside a member. -/
  | member {before after : Entries Json} {name : String} {v w : Json} (h : Rearranges v w) :
      Rearranges (.object (before ++ (name, v) :: after)) (.object (before ++ (name, w) :: after))
  /-- A list inside an item. -/
  | item {before after : List Json} {v w : Json} (h : Rearranges v w) :
      Rearranges (.array (before ++ v :: after)) (.array (before ++ w :: after))

/-- Lists **match** if each element of one is an element of the other, perhaps rearranged inside. -/
structure Match (items others : List Json) : Prop where
  /-- Each element of the first list is in the second. -/
  left : ∀ v ∈ items, ∃ w ∈ others, v = w ∨ Rearranges v w
  /-- Each element of the second list is in the first. -/
  right : ∀ w ∈ others, ∃ v ∈ items, v = w ∨ Rearranges v w

/-- Lists with the same elements match. -/
theorem match_of_mem_iff (h : ∀ v, v ∈ items ↔ v ∈ others) : Match items others where
  left v hv := ⟨v, (h v).mp hv, .inl rfl⟩
  right w hw := ⟨w, (h w).mpr hw, .inl rfl⟩

/-- Lists of which one element is rearranged inside match. -/
theorem match_of_item (h : Rearranges v w) (before after : List Json) :
    Match (before ++ v :: after) (before ++ w :: after) where
  left u hu := by
    rcases Checks.mem_of_replaced hu with rfl | hu
    · exact ⟨w, List.mem_append_cons_self, .inr h⟩
    · exact ⟨u, hu, .inl rfl⟩
  right u hu := by
    rcases Checks.mem_of_replaced hu with rfl | hu
    · exact ⟨v, List.mem_append_cons_self, .inr h⟩
    · exact ⟨u, hu, .inl rfl⟩

/-- What does not see rearrangements takes the same values on lists that match. -/
theorem Match.mem_map_iff {α : Type} {f : Json → α} (h : Match items others)
    (hf : ∀ v w, Rearranges v w → f v = f w) (x : α) : x ∈ items.map f ↔ x ∈ others.map f := by
  constructor
  · intro hx
    obtain ⟨v, hv, rfl⟩ := List.mem_map.mp hx
    obtain ⟨w, hw, rfl | hvw⟩ := h.left v hv
    · exact List.mem_map_of_mem hw
    · exact List.mem_map.mpr ⟨w, hw, (hf v w hvw).symm⟩
  · intro hx
    obtain ⟨w, hw, rfl⟩ := List.mem_map.mp hx
    obtain ⟨v, hv, rfl | hvw⟩ := h.right w hw
    · exact List.mem_map_of_mem hv
    · exact List.mem_map.mpr ⟨v, hv, hf v w hvw⟩

/-- Values are **alike** under a keyword: none is a text, and if one is an array, both are, and match. -/
structure Alike (v w : Json) : Prop where
  /-- The first is no text. -/
  left : v.string? = none
  /-- The second is no text. -/
  right : w.string? = none
  /-- None is an array, or both are. -/
  arrays : (v.array? = none ∧ w.array? = none) ∨
    ∃ items others, v.array? = some items ∧ w.array? = some others ∧ Match items others

/-- Values that are rearranged inside are alike. -/
theorem Rearranges.alike (h : Rearranges v w) : Alike v w := by
  cases h with
  | list | member => exact ⟨rfl, rfl, .inl ⟨rfl, rfl⟩⟩
  | item h => exact ⟨rfl, rfl, .inr ⟨_, _, rfl, rfl, match_of_item h _ _⟩⟩

/-- **Under every name** a rearranged value has what it had before, or something alike. -/
theorem Rearranges.get?_cases (h : Rearranges v w) (key : String) :
    v.get? key = w.get? key ∨ ∃ a b, v.get? key = some a ∧ w.get? key = some b ∧ Alike a b := by
  have hmember : ∀ {before after : Entries Json} {name : String} {a b : Json}, Alike a b →
      (Json.object (before ++ (name, a) :: after)).get? key
          = (Json.object (before ++ (name, b) :: after)).get? key ∨
        ∃ a' b', (Json.object (before ++ (name, a) :: after)).get? key = some a' ∧
          (Json.object (before ++ (name, b) :: after)).get? key = some b' ∧ Alike a' b' := by
    intro before after name a b hab
    rcases Entries.get?_of_replaced before after name a b key with heq | ⟨ha, hb⟩
    · exact .inl heq
    · exact .inr ⟨a, b, ha, hb, hab⟩
  cases h with
  | list _ h => exact hmember ⟨rfl, rfl, .inr ⟨_, _, rfl, rfl, match_of_mem_iff h⟩⟩
  | member h => exact hmember h.alike
  | item => exact .inl rfl

/-! ## What a schema says -/

/-- A rearranged schema is the same reference, or none as before. -/
theorem reference?_of_rearranges (h : Rearranges v w) : reference? v = reference? w := by
  rw [reference?, reference?]
  rcases h.get?_cases "$ref" with heq | ⟨a, b, ha, hb, hab⟩
  · rw [heq]
  · rw [ha, hb]
    exact hab.left.trans hab.right.symm

/-- A type that is no text is declared by a list of names. -/
theorem declaredType?_of_array {a : Json} (h : v.get? "type" = some a) (htext : a.string? = none) :
    declaredType? v = a.array?.bind fun names =>
      agreed? ((names.filterMap Json.string?).filter fun n => n != "null") := by
  rw [declaredType?, h]
  cases a with
  | string s => cases htext
  | _ => rfl

/-- A rearranged schema declares the same type. -/
theorem declaredType?_of_rearranges (h : Rearranges v w) : declaredType? v = declaredType? w := by
  rcases h.get?_cases "type" with heq | ⟨a, b, ha, hb, hab⟩
  · rw [declaredType?, declaredType?, heq]
  · rw [declaredType?_of_array ha hab.left, declaredType?_of_array hb hab.right]
    rcases hab.arrays with ⟨ha, hb⟩ | ⟨items, others, ha, hb, hmatch⟩
    · rw [ha, hb]
    · rw [ha, hb]
      -- the names that occur are the same
      have htexts : ∀ u u', Rearranges u u' → u.string? = u'.string? := fun _ _ h =>
        h.alike.left.trans h.alike.right.symm
      refine agreed?_congr fun t => ?_
      have hmem := hmatch.mem_map_iff htexts (some t)
      rw [List.mem_map, List.mem_map] at hmem
      rw [List.mem_filter, List.mem_filter, List.mem_filterMap, List.mem_filterMap, hmem]

/-- A rearranged schema has properties iff it had some. -/
theorem isSome_get?_of_rearranges (h : Rearranges v w) (key : String) :
    (v.get? key).isSome = (w.get? key).isSome := by
  rcases h.get?_cases key with heq | ⟨a, b, ha, hb, -⟩
  · rw [heq]
  · rw [ha, hb]
    rfl

/-- The schemas that a rearranged schema combines are as before, or match them. -/
theorem combined?_cases (h : Rearranges v w) (name : String) :
    combined? v name = combined? w name ∨
      ∃ items others, combined? v name = some items ∧ combined? w name = some others ∧
        Match items others := by
  rw [combined?, combined?]
  rcases h.get?_cases name with heq | ⟨a, b, ha, hb, hab⟩
  · exact .inl (by rw [heq])
  · rw [ha, hb]
    rcases hab.arrays with ⟨ha, hb⟩ | harrays
    · exact .inl (ha.trans hb.symm)
    · exact .inr harrays

/-! ## Types -/

/-- A rearranged schema has the same type of its own, if those it combines have. -/
theorem ownType_of_rearranges {inner : Json → String}
    (hinner : ∀ v w, Rearranges v w → inner v = inner w) (h : Rearranges v w) :
    ownType inner v = ownType inner w := by
  have hcombined : ∀ name,
      ((combined? v name).bind fun schemas => agreed? (schemas.map inner))
        = (combined? w name).bind fun schemas => agreed? (schemas.map inner) := fun name => by
    rcases combined?_cases h name with heq | ⟨items, others, hv, hw, hmatch⟩
    · rw [heq]
    · rw [hv, hw]
      exact agreed?_congr (hmatch.mem_map_iff hinner)
  rw [ownType, ownType, declaredType?_of_rearranges h, isSome_get?_of_rearranges h,
    Checks.findSome?_congr fun name _ => hcombined name]

/-- **Rearranging one list leaves the type as it is**, inside any frames. -/
theorem typeWithin_of_rearranges (h : Rearranges v w) (room : Nat) (active : List (List Char)) :
    typeWithin root room active v = typeWithin root room active w := by
  induction room generalizing v w active with
  | zero => rfl
  | succ room ih =>
      have href := reference?_of_rearranges h
      cases hactive : Frames.isActive active (reference? w) with
      | true => rw [typeWithin_of_active hactive, typeWithin_of_active (href ▸ hactive)]
      | false =>
          cases hw : reference? w with
          | some reference =>
              -- both are the same reference, and the document is the same
              rw [hw] at hactive
              rw [typeWithin_of_reference hw hactive, typeWithin_of_reference (href.trans hw) hactive]
          | none =>
              rw [typeWithin_of_none hw, typeWithin_of_none (href.trans hw)]
              exact ownType_of_rearranges (fun _ _ h => ih h active) h

/-- **The type of a schema with rearranged lists.** The walk to the type of a schema ends, with one type
and with no frame left open; and so does that of the schema with any lists of types or of combined schemas
permuted or repeated, at any depth, with the same type. -/
theorem typeOf_rearranged (root : Json) {schema other : Json}
    (h : Relation.ReflTransGen Rearranges schema other) :
    (∀ type left, TypeWalk root .fresh schema type left ↔ type = typeOf root schema ∧ left = .fresh) ∧
      (∀ type left, TypeWalk root .fresh other type left ↔ type = typeOf root schema ∧ left = .fresh) ∧
      typeOf root other = typeOf root schema := by
  have hsame : typeOf root other = typeOf root schema := by
    induction h with
    | refl => rfl
    | tail _ hstep ih => exact (typeWithin_of_rearranges hstep maxFrames []).symm.trans ih
  exact ⟨fun _ _ => typeWalk_iff, fun _ _ => hsame ▸ typeWalk_iff, hsame⟩

/-- A document with a schema that refers to itself. -/
def loopedDocument : Json := .object [("Node", .object [("$ref", .string "#/Node")])]

/-- A schema that combines that one with one of two types. -/
def looped : Json :=
  .object [("oneOf", .array [.object [("$ref", .string "#/Node")],
    .object [("type", .array [.string "string", .string "null"])]])]

/-- The same schema with both lists the other way round, and the reference listed twice. -/
def relisted : Json :=
  .object [("oneOf", .array [.object [("type", .array [.string "null", .string "string"])],
    .object [("$ref", .string "#/Node")], .object [("$ref", .string "#/Node")]])]

/-- The cycle ends as a string, which the other schema is in either order. -/
theorem typeOf_rearranged_looped :
    Relation.ReflTransGen Rearranges looped relisted ∧
      TypeWalk loopedDocument .fresh looped "string" .fresh ∧
      TypeWalk loopedDocument .fresh relisted "string" .fresh := by
  have htype : Rearranges looped (.object [("oneOf", .array [.object [("$ref", .string "#/Node")],
      .object [("type", .array [.string "null", .string "string"])]])]) := by
    have hnames : ∀ v : Json, v ∈ [Json.string "string", Json.string "null"]
        ↔ v ∈ [Json.string "null", Json.string "string"] := fun v => by simp [or_comm]
    have hlist := @Rearranges.list [] [] "type" _ _ (by decide) hnames
    exact @Rearranges.member [] [] "oneOf" _ _ (@Rearranges.item [_] [] _ _ hlist)
  have hschemas : Rearranges (.object [("oneOf", .array [.object [("$ref", .string "#/Node")],
      .object [("type", .array [.string "null", .string "string"])]])]) relisted :=
    @Rearranges.list [] [] "oneOf" _ _ (by decide) fun v => by simp [or_comm]
  have hrelisted := Relation.ReflTransGen.tail (.single htype) hschemas
  have hstring : typeOf loopedDocument looped = "string" := by decide +kernel
  obtain ⟨hlooped, hother, -⟩ := typeOf_rearranged loopedDocument hrelisted
  exact ⟨hrelisted, (hlooped _ _).mpr ⟨hstring.symm, rfl⟩, (hother _ _).mpr ⟨hstring.symm, rfl⟩⟩

end QueryableApi.OpenApi
