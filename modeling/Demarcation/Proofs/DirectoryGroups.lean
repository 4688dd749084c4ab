import Demarcation.Proofs.KeyedGroups

namespace Demarcation

open Text

def Inventory.HasDistinctDirectories (inv : Inventory) : Prop :=
  ∀ d ∈ inv.declarations.toList, ∀ e ∈ inv.declarations.toList,
    directoryName d.file = directoryName e.file → parentPath d.file = parentPath e.file

theorem directoryName_congr {a b : String} (h : parentPath a = parentPath b) : directoryName a = directoryName b := by
  rw [directoryName, directoryName, h]

theorem groupsByKey_directoryClusters (R : Type) [Scalar R] (inv : Inventory) (options : ClusteringOptions) :
    GroupsByKey inv (fun d => directoryName d.file) options.minDirectoryGroup (directoryClusters R inv options) :=
  groupsByKey_map inv _ options.minDirectoryGroup _ (fun _ => rfl) fun _ => rfl

/-- The candidates consist of the declarations in directories of one name each, and there is one for each name of
directories that hold enough declarations. So declarations of one directory are never in different candidates, and where no
two directories have the same name, all members of a candidate live in one directory. -/
theorem directoryClusters_by_name {R : Type} [Scalar R] (inv : Inventory) (options : ClusteringOptions) :
    GroupsByKey inv (fun d => directoryName d.file) options.minDirectoryGroup (directoryClusters R inv options) ∧
      (∀ c ∈ directoryClusters R inv options, ∀ c' ∈ directoryClusters R inv options,
        ∀ d ∈ c.declarations inv, ∀ e ∈ c'.declarations inv, parentPath d.file = parentPath e.file → c = c') ∧
      (inv.HasDistinctDirectories → ∀ c ∈ directoryClusters R inv options,
        ∀ d ∈ c.declarations inv, ∀ e ∈ c.declarations inv, parentPath d.file = parentPath e.file) := by
  have hgroups := groupsByKey_directoryClusters R inv options
  refine ⟨hgroups, ?_, ?_⟩
  · intro c hc c' hc' d hd e he hparent
    exact hgroups.eq_of_key_eq hc hc' hd he (directoryName_congr hparent)
  · intro hdistinct c hc d hd e he
    obtain ⟨hd, hdname⟩ := (hgroups.mem_declarations_iff hc).1 hd
    obtain ⟨he, hename⟩ := (hgroups.mem_declarations_iff hc).1 he
    exact hdistinct d hd e he (hdname.trans hename.symm)

def storeDeclarations : List Declaration := [
  { kind := .struct, name := "Cart", file := "shop/store/cart.go", line := 3 },
  { kind := .struct, name := "Order", file := "shop/store/order.go", line := 3 },
  { kind := .struct, name := "Product", file := "shop/store/product.go", line := 3 },
  { kind := .function, name := "main", file := "shop/main.go", line := 5 }]

theorem directoryClusters_by_name_store :
    (Inventory.build storeDeclarations).HasDistinctDirectories ∧
      ∃ c ∈ directoryClusters Float (Inventory.build storeDeclarations) {}, c.name = "store" ∧
        ∀ d ∈ c.declarations (Inventory.build storeDeclarations),
          ∀ e ∈ c.declarations (Inventory.build storeDeclarations), parentPath d.file = parentPath e.file := by
  have hdistinct : (Inventory.build storeDeclarations).HasDistinctDirectories := by
    simp only [Inventory.HasDistinctDirectories, Inventory.mem_declarations_build]
    decide +kernel
  obtain ⟨hgroups, -, hone⟩ := directoryClusters_by_name (R := Float) (Inventory.build storeDeclarations) {}
  have hstore : ∃ c ∈ directoryClusters Float (Inventory.build storeDeclarations) {}, c.name = "store" := by
    rw [hgroups.exists_iff_of_build]
    decide +kernel
  obtain ⟨c, hc, hname⟩ := hstore
  exact ⟨hdistinct, c, hc, hname, hone hdistinct c hc⟩

def modelDeclarations : List Declaration := [
  { kind := .struct, name := "Cart", file := "api/model/cart.go", line := 3 },
  { kind := .struct, name := "Order", file := "api/model/order.go", line := 3 },
  { kind := .struct, name := "Cart", file := "web/model/cart.go", line := 3 },
  { kind := .struct, name := "Order", file := "web/model/order.go", line := 3 }]

theorem directoryClusters_joins_models :
    ∃ c ∈ directoryClusters Float (Inventory.build modelDeclarations) {},
      ∃ d ∈ c.declarations (Inventory.build modelDeclarations),
        ∃ e ∈ c.declarations (Inventory.build modelDeclarations), parentPath d.file ≠ parentPath e.file := by
  have hgroups := groupsByKey_directoryClusters Float (Inventory.build modelDeclarations) {}
  have hmodel : ∃ c ∈ directoryClusters Float (Inventory.build modelDeclarations) {}, c.name = "model" := by
    rw [hgroups.exists_iff_of_build]
    decide +kernel
  have hapart : ∃ d ∈ modelDeclarations, ∃ e ∈ modelDeclarations,
      directoryName d.file = "model" ∧ directoryName e.file = "model" ∧ parentPath d.file ≠ parentPath e.file := by
    decide +kernel
  obtain ⟨c, hc, hname⟩ := hmodel
  obtain ⟨d, hd, e, he, hdname, hename, hne⟩ := hapart
  have hmem {x : Declaration} (hx : x ∈ modelDeclarations) (hxname : directoryName x.file = "model") :
      x ∈ c.declarations (Inventory.build modelDeclarations) :=
    (hgroups.mem_declarations_iff hc).2 ⟨Inventory.mem_declarations_build.2 hx, hxname.trans hname.symm⟩
  exact ⟨c, hc, d, hmem hd hdname, e, hmem he hename, hne⟩

end Demarcation
