import Demarcation.Source
import Demarcation.Proofs.Grouping
import Demarcation.Proofs.InventoryMembers

namespace Demarcation

open Text

section Tables

theorem SortedSet.toList_eq_singleton {α : Type} [LT α] [Ordered α] {s : SortedSet α} {a : α}
    (h : ∀ b, b ∈ s ↔ b = a) : s.toList = [a] := by
  have hs : s = ⟨[a], List.pairwise_singleton _ a⟩ := by
    apply SortedSet.ext
    intro b
    rw [h, SortedSet.mem_def, List.mem_singleton]
  rw [hs]

def accessedTables (inv : Inventory) : List String := (inv.accesses.toList.map (·.table)).eraseDups

def usersOf (inv : Inventory) (table : String) : List Nat :=
  ((inv.accesses.toList.filter (·.table == table)).flatMap (accessors inv)).eraseDups

variable {R : Type} {inv : Inventory} {table : String}

theorem mem_accessedTables_iff : table ∈ accessedTables inv ↔ ∃ a ∈ inv.accesses, a.table = table := by
  rw [accessedTables, List.mem_eraseDups, List.mem_map]
  rfl

theorem mem_usersOf_iff {i : Nat} :
    i ∈ usersOf inv table ↔ ∃ a ∈ inv.accesses, a.table = table ∧ IsAccessor inv a i := by
  simp only [usersOf, List.mem_eraseDups, List.mem_flatMap, List.mem_filter, beq_iff_eq, mem_accessors_iff, and_assoc,
    SortedSet.mem_def]

theorem tables_of_accesses (h : table ∈ accessedTables inv) {c : Candidate R}
    (hc : c.accesses = inv.accesses.filter (·.table == table)) : c.tables.toList = [table] := by
  obtain ⟨a, ha, rfl⟩ := mem_accessedTables_iff.1 h
  apply SortedSet.toList_eq_singleton
  intro t
  rw [Candidate.tables, hc, SortedSet.mem_ofList, List.mem_map]
  simp only [← SortedSet.mem_def, SortedSet.mem_filter, beq_iff_eq]
  constructor
  · rintro ⟨b, ⟨-, hb⟩, rfl⟩
    exact hb
  · rintro rfl
    exact ⟨a, ⟨ha, rfl⟩, rfl⟩

theorem map_databaseClusters (R : Type) [Scalar R] (inv : Inventory) (options : ClusteringOptions) :
    (databaseClusters R inv options).map (fun c => (c.tables.toList, c.members)) =
      ((accessedTables inv).filter fun t => options.minTableFunctions ≤ ((usersOf inv t).length : Int)).map
        fun t => ([t], SortedSet.ofList (usersOf inv t)) := by
  rw [databaseClusters, groupsBy_eq]
  simp only [List.map_map, List.filter_map]
  apply List.map_congr_left
  intro t ht
  have htable := List.mem_of_mem_filter ht
  simp only [Function.comp_apply, Prod.mk.injEq]
  refine ⟨tables_of_accesses htable ?_, ?_⟩
  · split <;> rfl
  · split <;> rfl

end Tables

section OwnAccesses

def Extraction.HasOwnAccesses (e : Extraction) : Prop :=
  ∀ a, a ∈ e.accesses ↔ ∃ d ∈ e.declarations, d.isFunction = true ∧ a ∈ d.accesses

theorem Extraction.hasOwnAccesses {e : Extraction} (hstructs : ∀ d ∈ e.structs, d.kind = .struct)
    (hinterfaces : ∀ d ∈ e.interfaces, d.kind = .interface) (hfunctions : ∀ d ∈ e.functions, d.kind = .function)
    (haccesses : e.accesses = e.functions.flatMap (·.accesses)) : e.HasOwnAccesses := by
  intro a
  rw [haccesses, List.mem_flatMap]
  refine exists_congr fun d => ?_
  simp only [declarations, List.mem_append, Declaration.isFunction, beq_iff_eq]
  constructor
  · rintro ⟨hd, ha⟩
    exact ⟨Or.inr hd, hfunctions d hd, ha⟩
  · rintro ⟨(hd | hd) | hd, hkind, ha⟩
    · cases (hstructs d hd).symm.trans hkind
    · cases (hinterfaces d hd).symm.trans hkind
    · exact ⟨hd, ha⟩

theorem Go.hasOwnAccesses_declarations (file : String) (t : Go.Tree) : (Go.declarations file t).HasOwnAccesses := by
  rw [Go.declarations_eq]
  apply Extraction.hasOwnAccesses
  · simp
  · simp
  · simp [Go.functionDeclarationOf]
  · rfl

theorem Python.hasOwnAccesses_declarations (file : String) (t : Python.Tree) :
    (Python.declarations file t).HasOwnAccesses := by
  apply Extraction.hasOwnAccesses
  · simp [Python.declarations]
  · simp [Python.declarations]
  · simp [Python.declarations]
  · rfl

theorem Language.hasOwnAccesses_extract {language : Language} {text file : String} {e : Extraction}
    (h : language.extract text file = .ok e) : e.HasOwnAccesses := by
  cases language with
  | go =>
    rw [Language.extract, Go.extract] at h
    split at h
    · obtain rfl := Except.ok.inj h
      exact Go.hasOwnAccesses_declarations _ _
    · cases h
  | python =>
    rw [Language.extract, Python.extract] at h
    split at h
    · obtain rfl := Except.ok.inj h
      exact Python.hasOwnAccesses_declarations _ _
    · cases h

theorem Source.hasOwnAccesses_extract (t : FileTree) (root path : String) :
    (Source.extract t root path).1.HasOwnAccesses := by
  have hnone : Extraction.HasOwnAccesses {} := by simp [Extraction.HasOwnAccesses, Extraction.declarations]
  rw [Source.extract]
  split
  · exact hnone
  · split
    · exact hnone
    · split
      · exact Language.hasOwnAccesses_extract ‹_›
      · exact hnone

def Inventory.HasOwnAccesses (inv : Inventory) : Prop :=
  ∀ a, a ∈ inv.accesses ↔ ∃ d ∈ inv.declarations.toList, d.isFunction = true ∧ a ∈ d.accesses

theorem Inventory.hasOwnAccesses_build (declarations : List Declaration) (files : List String) :
    (build declarations ((declarations.filter (·.isFunction)).flatMap (·.accesses)) files).HasOwnAccesses := by
  intro a
  simp only [mem_accesses_build, mem_declarations_build, List.mem_flatMap, List.mem_filter, and_assoc]

theorem Source.hasOwnAccesses_inventory (t : FileTree) (root : String) (paths : List String) :
    (Source.inventory t root paths).1.HasOwnAccesses := by
  intro a
  rw [Source.inventory]
  simp only [Inventory.mem_accesses_build, Inventory.mem_declarations_build, List.mem_flatMap]
  constructor
  · rintro ⟨e, he, ha⟩
    obtain ⟨path, -, rfl⟩ := List.mem_map.1 he
    obtain ⟨d, hd, hfunction, had⟩ := (hasOwnAccesses_extract t root path a).1 ha
    exact ⟨d, ⟨_, he, hd⟩, hfunction, had⟩
  · rintro ⟨d, ⟨e, he, hd⟩, hfunction, had⟩
    obtain ⟨path, -, rfl⟩ := List.mem_map.1 he
    exact ⟨_, he, (hasOwnAccesses_extract t root path a).2 ⟨d, hd, hfunction, had⟩⟩

end OwnAccesses

section Namesakes

def sharesAccess (inv : Inventory) (table : String) (d : Declaration) : Bool :=
  d.isFunction && inv.declarations.toList.any fun e =>
    e.isFunction && e.name == d.name && e.file == d.file && e.tables.contains table

variable {inv : Inventory} {table : String} {d : Declaration}

theorem sharesAccess_iff :
    sharesAccess inv table d = true ↔ d.isFunction = true ∧
      ∃ e ∈ inv.declarations.toList, e.isFunction = true ∧ e.name = d.name ∧ e.file = d.file ∧ table ∈ e.tables := by
  simp only [sharesAccess, Bool.and_eq_true, List.any_eq_true, beq_iff_eq, List.contains_iff_mem, and_assoc]

theorem of_mem_accesses {a : Access} (h : a ∈ d.accesses) :
    a.table ∈ d.tables ∧ d.name = a.function ∧ d.file = a.file := by
  obtain ⟨t, ht, rfl⟩ := List.mem_map.1 h
  exact ⟨ht, rfl, rfl⟩

theorem exists_mem_accesses (h : table ∈ d.tables) : ∃ a ∈ d.accesses, a.table = table :=
  ⟨_, List.mem_map_of_mem h, rfl⟩

theorem mem_accessedTables_iff_exists (h : inv.HasOwnAccesses) :
    table ∈ accessedTables inv ↔ ∃ e ∈ inv.declarations.toList, e.isFunction = true ∧ table ∈ e.tables := by
  rw [mem_accessedTables_iff]
  constructor
  · rintro ⟨a, ha, rfl⟩
    obtain ⟨e, he, hfunction, hae⟩ := (h a).1 ha
    exact ⟨e, he, hfunction, (of_mem_accesses hae).1⟩
  · rintro ⟨e, he, hfunction, htable⟩
    obtain ⟨a, hae, ha⟩ := exists_mem_accesses htable
    exact ⟨a, (h a).2 ⟨e, he, hfunction, hae⟩, ha⟩

theorem mem_usersOf_iff_sharesAccess (h : inv.HasOwnAccesses) {i : Nat} :
    i ∈ usersOf inv table ↔ ∃ d, inv.declarations[i]? = some d ∧ sharesAccess inv table d = true := by
  simp only [mem_usersOf_iff, sharesAccess_iff]
  constructor
  · rintro ⟨a, ha, rfl, d, hd, hfunction, hname, hfile⟩
    obtain ⟨e, he, hefunction, hae⟩ := (h a).1 ha
    obtain ⟨htable, hename, hefile⟩ := of_mem_accesses hae
    exact ⟨d, hd, hfunction, e, he, hefunction, hename.trans hname.symm, hefile.trans hfile.symm, htable⟩
  · rintro ⟨d, hd, hfunction, e, he, hefunction, hname, hfile, htable⟩
    obtain ⟨a, hae, ha⟩ := exists_mem_accesses htable
    obtain ⟨-, hename, hefile⟩ := of_mem_accesses hae
    have haccess : a ∈ inv.accesses := (h a).2 ⟨e, he, hefunction, hae⟩
    exact ⟨a, haccess, ha, d, hd, hfunction, hname.symm.trans hename, hfile.symm.trans hefile⟩

theorem length_usersOf (h : inv.HasOwnAccesses) (table : String) :
    (usersOf inv table).length = inv.declarations.toList.countP (sharesAccess inv table) := by
  have hperm : (usersOf inv table).Perm ((inv.entries.filter fun e => sharesAccess inv table e.2).map (·.1)) := by
    have hnodup : (usersOf inv table).Nodup := nodup_eraseDups _
    refine (List.perm_ext_iff_of_nodup hnodup ?_).2 ?_
    · exact inv.nodup_map_fst_entries.sublist (List.filter_sublist.map _)
    · intro i
      rw [mem_usersOf_iff_sharesAccess h, Inventory.mem_map_fst_filter_entries]
  rw [hperm.length_eq, List.length_map, inv.length_filter_entries]

end Namesakes

section Candidates

variable {R : Type} [Scalar R] {inv : Inventory} {options : ClusteringOptions} {table : String} {c : Candidate R}

theorem exists_candidate_iff (h : inv.HasOwnAccesses) :
    (∃ c ∈ databaseClusters R inv options, c.tables.toList = [table]) ↔
      (∃ d ∈ inv.declarations.toList, d.isFunction = true ∧ table ∈ d.tables) ∧
        options.minTableFunctions ≤ (inv.declarations.toList.countP (sharesAccess inv table) : Int) := by
  have hmem : (∃ c ∈ databaseClusters R inv options, c.tables.toList = [table]) ↔
      [table] ∈ ((databaseClusters R inv options).map fun c => (c.tables.toList, c.members)).map (·.1) := by
    rw [List.map_map, List.mem_map]
    rfl
  rw [hmem, map_databaseClusters, List.map_map, List.mem_map, ← mem_accessedTables_iff_exists h, ← length_usersOf h]
  simp

theorem exists_table_of_mem_databaseClusters (hc : c ∈ databaseClusters R inv options) :
    ∃ t, c.tables.toList = [t] ∧ c.members = SortedSet.ofList (usersOf inv t) := by
  have hmem := List.mem_map_of_mem (f := fun c => (c.tables.toList, c.members)) hc
  rw [map_databaseClusters] at hmem
  obtain ⟨t, -, ht⟩ := List.mem_map.1 hmem
  exact ⟨t, (congrArg Prod.fst ht).symm, (congrArg Prod.snd ht).symm⟩

theorem members_of_mem_databaseClusters (h : inv.HasOwnAccesses) (hc : c ∈ databaseClusters R inv options)
    (htable : table ∈ c.tables) :
    c.tables.toList = [table] ∧
      ∀ i, i ∈ c.members ↔ ∃ d, inv.declarations[i]? = some d ∧ sharesAccess inv table d = true := by
  obtain ⟨t, ht, hmembers⟩ := exists_table_of_mem_databaseClusters hc
  rw [SortedSet.mem_def, ht, List.mem_singleton] at htable
  subst htable
  refine ⟨ht, ?_⟩
  intro i
  rw [hmembers, SortedSet.mem_ofList, mem_usersOf_iff_sharesAccess h]

def Inventory.HasDistinctFunctions (inv : Inventory) : Prop :=
  ∀ d ∈ inv.declarations.toList, ∀ e ∈ inv.declarations.toList, d.isFunction = true → e.isFunction = true →
    d.name = e.name → d.file = e.file → d = e

theorem sharesAccess_iff_of_distinct (h : inv.HasDistinctFunctions) {d : Declaration}
    (hd : d ∈ inv.declarations.toList) :
    sharesAccess inv table d = true ↔ d.isFunction = true ∧ table ∈ d.tables := by
  rw [sharesAccess_iff]
  constructor
  · rintro ⟨hfunction, e, he, hefunction, hname, hfile, htable⟩
    rw [← h e he d hd hefunction hfunction hname hfile]
    exact ⟨hefunction, htable⟩
  · rintro ⟨hfunction, htable⟩
    exact ⟨hfunction, d, hd, hfunction, rfl, rfl, htable⟩

end Candidates

/-- A table that some function accesses has a candidate if enough functions have the name and the file of one that does,
and these are its members. Where names are distinct within a file, they are the functions that access the table. What is
read from source files has the accesses of its functions. -/
theorem databaseClusters_iff_sharesAccess {R : Type} [Scalar R] :
    (∀ (inv : Inventory) (options : ClusteringOptions) (table : String), inv.HasOwnAccesses →
      ((∃ c ∈ databaseClusters R inv options, c.tables.toList = [table]) ↔
        (∃ d ∈ inv.declarations.toList, d.isFunction = true ∧ table ∈ d.tables) ∧
          options.minTableFunctions ≤ (inv.declarations.toList.countP (sharesAccess inv table) : Int)) ∧
      (∀ c ∈ databaseClusters R inv options, table ∈ c.tables → c.tables.toList = [table] ∧
        ∀ i, i ∈ c.members ↔ ∃ d, inv.declarations[i]? = some d ∧ sharesAccess inv table d = true) ∧
      (inv.HasDistinctFunctions → ∀ d ∈ inv.declarations.toList,
        (sharesAccess inv table d = true ↔ d.isFunction = true ∧ table ∈ d.tables))) ∧
      ∀ (t : FileTree) (root : String) (paths : List String), (Source.inventory t root paths).1.HasOwnAccesses := by
  refine ⟨?_, Source.hasOwnAccesses_inventory⟩
  intro inv options table h
  refine ⟨exists_candidate_iff h, ?_, ?_⟩
  · intro c hc htable
    exact members_of_mem_databaseClusters h hc htable
  · intro hdistinct d hd
    exact sharesAccess_iff_of_distinct hdistinct hd

def invoiceFunctions : List Declaration := [
  { kind := .function, name := "chargeInvoice", file := "billing/charge.go", line := 3, tables := ["invoices"] },
  { kind := .function, name := "formatInvoice", file := "billing/charge.go", line := 9 },
  { kind := .function, name := "loadInvoice", file := "billing/store.go", line := 8, tables := ["invoices"] }]

def invoiceInventory : Inventory :=
  .build invoiceFunctions ((invoiceFunctions.filter (·.isFunction)).flatMap (·.accesses)) []

theorem databaseClusters_iff_sharesAccess_invoices :
    invoiceInventory.HasOwnAccesses ∧ invoiceInventory.HasDistinctFunctions ∧
      ∃ c ∈ databaseClusters Float invoiceInventory {}, c.tables.toList = ["invoices"] ∧
        ∀ i, i ∈ c.members ↔
          ∃ d, invoiceInventory.declarations[i]? = some d ∧ d.isFunction = true ∧ "invoices" ∈ d.tables := by
  have hown : invoiceInventory.HasOwnAccesses := Inventory.hasOwnAccesses_build _ _
  have hmem {d : Declaration} : d ∈ invoiceInventory.declarations.toList ↔ d ∈ invoiceFunctions :=
    Inventory.mem_declarations_build
  have hdistinct : invoiceInventory.HasDistinctFunctions := by
    simp only [Inventory.HasDistinctFunctions, hmem]
    decide
  obtain ⟨hexists, hmembers, hshares⟩ :=
    (databaseClusters_iff_sharesAccess (R := Float)).1 invoiceInventory {} "invoices" hown
  have henough : ({} : ClusteringOptions).minTableFunctions ≤
      (invoiceInventory.declarations.toList.countP (sharesAccess invoiceInventory "invoices") : Int) := by
    have hcount : invoiceInventory.declarations.toList.countP (sharesAccess invoiceInventory "invoices") =
        invoiceInventory.declarations.toList.countP fun d => d.isFunction && d.tables.contains "invoices" := by
      apply List.countP_congr
      intro d hd
      rw [hshares hdistinct d hd, Bool.and_eq_true, List.contains_iff_mem]
    rw [hcount, invoiceInventory, (Inventory.perm_declarations_build _ _ _).countP_eq]
    decide
  obtain ⟨c, hc, htable⟩ := hexists.2 ⟨by simp only [hmem]; decide, henough⟩
  have hcontains : "invoices" ∈ c.tables := by
    rw [SortedSet.mem_def, htable]
    exact List.mem_cons_self
  refine ⟨hown, hdistinct, c, hc, htable, ?_⟩
  intro i
  rw [(hmembers c hc hcontains).2 i]
  refine exists_congr fun d => and_congr_right fun hd => ?_
  exact hshares hdistinct d (Inventory.mem_declarations_of_getElem? hd)

section Namesake

def saveMethods : List Declaration := [
  { kind := .function, name := "Save", file := "store/order.go", line := 3, calls := ["s.db.Exec"],
    owner := some "OrderStore", tables := ["orders"], references := ["OrderStore"] },
  { kind := .function, name := "Save", file := "store/order.go", line := 7, owner := some "CartCache",
    references := ["CartCache"] }]

def saveInventory : Inventory :=
  .build saveMethods ((saveMethods.filter (·.isFunction)).flatMap (·.accesses)) []

theorem sharesAccess_saveMethods :
    ∀ d ∈ saveInventory.declarations.toList, sharesAccess saveInventory "orders" d = true := by
  simp only [sharesAccess_iff, saveInventory, Inventory.mem_declarations_build]
  decide

theorem databaseClusters_holds_namesake :
    saveInventory.HasOwnAccesses ∧
      ¬ ({} : ClusteringOptions).minTableFunctions ≤
        (saveInventory.declarations.toList.countP fun d => d.isFunction && d.tables.contains "orders" : Int) ∧
      ∃ c ∈ databaseClusters Float saveInventory {}, c.tables.toList = ["orders"] ∧
        ∃ i ∈ c.members, ∃ d, saveInventory.declarations[i]? = some d ∧ "orders" ∉ d.tables := by
  have hown : saveInventory.HasOwnAccesses := Inventory.hasOwnAccesses_build _ _
  refine ⟨hown, ?_, ?_⟩
  · rw [saveInventory, (Inventory.perm_declarations_build _ _ _).countP_eq]
    decide
  have horders : ∃ d ∈ saveInventory.declarations.toList, d.isFunction = true ∧ "orders" ∈ d.tables := by
    simp only [saveInventory, Inventory.mem_declarations_build]
    decide
  have henough : ({} : ClusteringOptions).minTableFunctions ≤
      (saveInventory.declarations.toList.countP (sharesAccess saveInventory "orders") : Int) := by
    rw [List.countP_eq_length.2 sharesAccess_saveMethods, saveInventory,
      (Inventory.perm_declarations_build _ _ _).length_eq]
    decide
  obtain ⟨c, hc, htable⟩ := (exists_candidate_iff (R := Float) hown).2 ⟨horders, henough⟩
  have hmember : "orders" ∈ c.tables := by
    rw [SortedSet.mem_def, htable]
    exact List.mem_cons_self
  obtain ⟨d, hd, huntouched⟩ : ∃ d ∈ saveInventory.declarations.toList, "orders" ∉ d.tables := by
    simp only [saveInventory, Inventory.mem_declarations_build]
    decide
  obtain ⟨i, hi⟩ := List.getElem?_of_mem hd
  rw [Array.getElem?_toList] at hi
  refine ⟨c, hc, htable, i, ?_, d, hi, huntouched⟩
  exact ((members_of_mem_databaseClusters hown hc hmember).2 i).2 ⟨d, hi, sharesAccess_saveMethods d hd⟩

end Namesake

end Demarcation
