import Mathlib.Data.List.Nodup
import QueryableApi.Program
import QueryableApi.Proofs.Checks
import QueryableApi.Proofs.OpenApi.Catalog

/-! # Finding a collection by a name

Each collection of a catalog is found by its name, because no other has it (`named?_eq_some_iff`). It is
found by the name of its data source too, unless another collection has that for its own name: a word
is looked up as it stands first, and only then without the lead of data sources (`find?_names_iff`). What
a word finds is what the commands that take the word go by (`Program.Selects`). -/

namespace QueryableApi

open OpenApi

/-- A word **selects a collection** of a catalog: the commands that take the word go by this
collection. -/
structure Program.Selects (catalog : Catalog) (word : String) (c : Collection) : Prop where
  /-- Its queryable schema is printed, or it has none. -/
  schema : schemaText catalog word =
    ((DataSource.mk (some c.toResource)).queryable.mapError fun failure => [failure.message]).map
      fun queryable => queryable.toJson.pretty ++ "\n"
  /-- It is the one that is read, once there is a client. -/
  read : ∀ (m : Type → Type) [Monad m] (w : Surroundings m) (s : Settings) (request : ReadRequest)
    (client : Client), clientOf s catalog request = .ok client →
      perform w s catalog (.read word request) = readWith w s client c.toResource request.state

/-- A word selects the collection that it finds. -/
theorem Program.selects_of_find? {catalog : Catalog} {word : String} {c : Collection}
    (h : catalog.find? word = some c) : Selects catalog word c := by
  have hfound : collection catalog word = .ok c := by rw [collection, h]; rfl
  constructor
  · rw [schemaText, hfound]
    dsimp only [bind, Except.bind]
    cases (DataSource.mk (some c.toResource)).queryable with
    | error failure => rfl
    | ok queryable => rfl
  · intro m _ w s request client hclient
    rw [perform, hfound, hclient]
    rfl

namespace OpenApi.Catalog

variable {document : Json} {catalog : Catalog} {c : Collection} {name : String}

/-- **The collection with a name**, if names are distinct, is any that has it. -/
theorem named?_eq_some_iff (h : catalog.names.Nodup) :
    catalog.named? name = some c ↔ c ∈ catalog.collections ∧ c.name = name := by
  unfold named?
  constructor
  · intro hfound
    have hname := List.find?_some hfound
    exact ⟨List.mem_of_find?_eq_some hfound, beq_iff_eq.mp hname⟩
  · rintro ⟨hc, rfl⟩
    have hsome : (catalog.collections.find? fun r => r.name == c.name).isSome = true :=
      List.find?_isSome.mpr ⟨c, hc, beq_self_eq_true c.name⟩
    obtain ⟨other, hother⟩ := Option.isSome_iff_exists.mp hsome
    have hmem := List.mem_of_find?_eq_some hother
    have hname := List.find?_some hother
    rw [hother, List.inj_on_of_nodup_map h hmem hc (beq_iff_eq.mp hname)]

/-- No collection has a name that is not found. -/
theorem named?_eq_none_iff :
    catalog.named? name = none ↔ ∀ c ∈ catalog.collections, c.name ≠ name := by
  rw [named?, List.find?_eq_none]
  simp only [beq_iff_eq, ne_eq]

/-- The name of a data source without its lead is the name behind the lead. -/
theorem bareName_append (name : String) : bareName (Resource.sourceLead ++ name) = name := by
  rw [bareName, String.toList_append]
  have hlead : Resource.sourceLead.toList.isPrefixOf (Resource.sourceLead.toList ++ name.toList)
      = true := List.isPrefixOf_iff_prefix.mpr (List.prefix_append _ _)
  simp only [hlead, if_true, List.drop_left, String.ofList_toList]

/-- The name of a data source is not that of its collection. -/
theorem sourceName_ne_name (c : Collection) : c.name ≠ c.toResource.sourceName := by
  intro h
  have hlength := congrArg String.length h
  have hlead : Resource.sourceLead.length = 5 := rfl
  have hname : c.toResource.name = c.name := rfl
  rw [Resource.sourceName, String.length_append, hlead, hname] at hlength
  omega

/-- A collection is found by its name. -/
theorem find?_name (hnames : catalog.names.Nodup) (hc : c ∈ catalog.collections) :
    catalog.find? c.name = some c := by
  rw [find?, (named?_eq_some_iff hnames).mpr ⟨hc, rfl⟩]
  rfl

/-- A collection is found by the name of its data source, if no collection has that for its name. -/
theorem find?_sourceName (hnames : catalog.names.Nodup) (hc : c ∈ catalog.collections)
    (hnone : ∀ other ∈ catalog.collections, other.name ≠ c.toResource.sourceName) :
    catalog.find? c.toResource.sourceName = some c := by
  rw [find?, named?_eq_none_iff.mpr hnone, Option.none_or, Resource.sourceName, bareName_append]
  exact (named?_eq_some_iff hnames).mpr ⟨hc, rfl⟩

/-- **How the collections of a catalog are found.** Each is found by its name. A collection whose name is
that of the data source of another is found instead of it, and where there is no such collection, each
is found by the name of its data source. The commands go by the collection that is found. -/
theorem find?_names_iff (h : ofDocument document = .ok catalog) (hc : c ∈ catalog.collections) :
    catalog.find? c.name = some c ∧
      (∀ other ∈ catalog.collections, other.name = c.toResource.sourceName →
        catalog.find? c.toResource.sourceName = some other) ∧
      (catalog.find? c.toResource.sourceName = some c ↔
        ∀ other ∈ catalog.collections, other.name ≠ c.toResource.sourceName) ∧
      ∀ word, catalog.find? word = some c → Program.Selects catalog word c := by
  have hnames := nodup_names h
  have hother : ∀ other ∈ catalog.collections, other.name = c.toResource.sourceName →
      catalog.find? c.toResource.sourceName = some other := by
    intro other hmem hname
    rw [← hname]
    exact find?_name hnames hmem
  refine ⟨find?_name hnames hc, hother, ⟨?_, find?_sourceName hnames hc⟩, ?_⟩
  · intro hfound other hmem hname
    rw [hother other hmem hname] at hfound
    obtain rfl := Option.some.inj hfound
    exact sourceName_ne_name other hname
  · exact fun word => Program.selects_of_find?

/-! ## Words that two collections claim -/

/-- The collections at two paths are found by the names of their data sources. -/
theorem find?_names_edge :
    ∃ catalog c, ofDocument (withPaths [("/cdns", objectListing), ("/edges", objectListing)])
        = .ok catalog ∧ c ∈ catalog.collections ∧ c.template = "/edges" ∧
      catalog.find? "edges" = some c ∧ catalog.find? "data_edges" = some c ∧
      Program.Selects catalog "data_edges" c := by
  obtain ⟨catalog, c, h, hc, hname, htemplate, hnames⟩ : ∃ catalog c,
      ofDocument (withPaths [("/cdns", objectListing), ("/edges", objectListing)]) = .ok catalog ∧
        c ∈ catalog.collections ∧ c.name = "edges" ∧ c.template = "/edges" ∧
        catalog.names = ["cdns", "edges"] :=
    ⟨_, _, rfl, List.mem_cons_of_mem _ List.mem_cons_self, rfl, rfl, rfl⟩
  obtain ⟨hfound, -, hiff, hselects⟩ := find?_names_iff h hc
  have hsource : c.toResource.sourceName = "data_edges" := by
    show Resource.sourceLead ++ c.name = "data_edges"
    rw [hname]
    rfl
  rw [hname] at hfound
  rw [hsource] at hiff
  have hdata := hiff.mpr fun other hother hdata => by
    have hmem : other.name ∈ catalog.names := List.mem_map_of_mem hother
    rw [hnames, hdata] at hmem
    exact absurd hmem (by decide)
  exact ⟨catalog, c, h, hc, htemplate, hfound, hdata, hselects _ hdata⟩

/-- **A collection whose name starts like that of a data source** is found instead of the collection
whose data source it names. -/
theorem find?_misses_source :
    ∃ catalog c other,
      ofDocument (withPaths [("/cdns", objectListing), ("/data_cdns", objectListing)])
        = .ok catalog ∧ c ∈ catalog.collections ∧ c.toResource.sourceName = "data_cdns" ∧
      c.template = "/cdns" ∧ catalog.find? "data_cdns" = some other ∧
      other.template = "/data_cdns" ∧ catalog.find? c.toResource.sourceName ≠ some c := by
  obtain ⟨catalog, c, other, h, hc, hsource, htemplate, hfound, hother⟩ : ∃ catalog c other,
      ofDocument (withPaths [("/cdns", objectListing), ("/data_cdns", objectListing)])
          = .ok catalog ∧ c ∈ catalog.collections ∧ c.toResource.sourceName = "data_cdns" ∧
        c.template = "/cdns" ∧ catalog.find? "data_cdns" = some other ∧
        other.template = "/data_cdns" :=
    ⟨_, _, _, rfl, List.mem_cons_self, rfl, rfl, rfl, rfl⟩
  refine ⟨catalog, c, other, h, hc, hsource, htemplate, hfound, hother, fun hself => ?_⟩
  rw [hsource, hfound] at hself
  obtain rfl := Option.some.inj hself
  rw [htemplate] at hother
  exact absurd hother (by decide)

end OpenApi.Catalog

end QueryableApi
