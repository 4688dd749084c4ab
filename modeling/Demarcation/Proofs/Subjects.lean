import Demarcation.Proofs.KeyedGroups

namespace Demarcation

open Text

namespace Declaration

def subjectWords (d : Declaration) : List String :=
  nameTokens d.name ++ nameTokens (beforeLast '.' (baseName d.file))

def mentions (d : Declaration) (word : String) : Bool :=
  d.subjectWords.contains word || d.subjectWords.contains (word ++ "s") || d.subjectWords.contains (word ++ "es")

end Declaration

theorem subject_eq (vocabulary : List String) (d : Declaration) :
    subject vocabulary d = (vocabulary.find? d.mentions).getD (directoryName d.file) := rfl

theorem subject_append (extra vocabulary : List String) (d : Declaration) :
    subject (extra ++ vocabulary) d = (extra.find? d.mentions).getD (subject vocabulary d) := by
  rw [subject_eq, subject_eq, List.find?_append]
  cases extra.find? d.mentions with
  | none => rfl
  | some word => rfl

structure FirstNewKeyword (options : ClusteringOptions) (d : Declaration) (keyword : String) : Prop where
  lower_not_mem : lower keyword ∉ domainKeywords
  mentions : d.mentions (lower keyword) = true
  exists_before : ∃ before after, options.extraKeywords = before ++ keyword :: after ∧
    ∀ k ∈ before, d.mentions (lower k) = true → lower k ∈ domainKeywords

section Vocabulary

variable {options : ClusteringOptions} {d : Declaration}

theorem FirstNewKeyword.find?_eq_some {keyword : String} (h : FirstNewKeyword options d keyword) :
    ((options.extraKeywords.map lower).filter (!domainKeywords.contains ·)).find? d.mentions =
      some (lower keyword) := by
  obtain ⟨before, after, hextra, hbefore⟩ := h.exists_before
  rw [List.find?_filter, List.find?_eq_some_iff_append]
  refine ⟨by simp [h.lower_not_mem, h.mentions], before.map lower, after.map lower, by simp [hextra], ?_⟩
  intro word hword
  obtain ⟨k, hk, rfl⟩ := List.mem_map.1 hword
  have hdomain := hbefore k hk
  simp only [Bool.not_eq_true', decide_eq_false_iff_not, List.contains_eq_mem, not_and]
  exact fun hnew hmentions => hnew (hdomain hmentions)

theorem FirstNewKeyword.subject_eq {keyword : String} (h : FirstNewKeyword options d keyword) :
    subject options.vocabulary d = lower keyword := by
  rw [ClusteringOptions.vocabulary, subject_append, h.find?_eq_some]
  rfl

theorem subject_eq_of_no_new_keyword
    (h : ∀ k ∈ options.extraKeywords, d.mentions (lower k) = true → lower k ∈ domainKeywords) :
    subject options.vocabulary d = subject domainKeywords d := by
  have hnone : ((options.extraKeywords.map lower).filter (!domainKeywords.contains ·)).find? d.mentions = none := by
    rw [List.find?_eq_none]
    intro word hword hmentions
    obtain ⟨hword, hnew⟩ := List.mem_filter.1 hword
    obtain ⟨k, hk, rfl⟩ := List.mem_map.1 hword
    have hdomain := h k hk hmentions
    simp [hdomain] at hnew
  rw [ClusteringOptions.vocabulary, subject_append, hnone]
  rfl

end Vocabulary

theorem groupsByKey_semanticClusters (R : Type) [Scalar R] (inv : Inventory) (options : ClusteringOptions) :
    GroupsByKey inv (subject options.vocabulary) options.minSemanticGroup (semanticClusters R inv options) :=
  groupsByKey_map inv (subject options.vocabulary) options.minSemanticGroup _ (fun _ => rfl) fun _ => rfl

/-- The candidates consist of the declarations with one subject each, and there is one for each subject of enough
declarations. A declaration that mentions extra keywords is found under the first of them that is no domain word, whatever
domain words it mentions; without such a keyword it is found where it would be without extra keywords. -/
theorem semanticClusters_by_subject {R : Type} [Scalar R] (inv : Inventory) (options : ClusteringOptions) :
    GroupsByKey inv (subject options.vocabulary) options.minSemanticGroup (semanticClusters R inv options) ∧
      ∀ i d, inv.declarations[i]? = some d →
        (∀ keyword, FirstNewKeyword options d keyword →
          ∀ c ∈ semanticClusters R inv options, i ∈ c.members ↔ c.name = lower keyword) ∧
        ((∀ k ∈ options.extraKeywords, d.mentions (lower k) = true → lower k ∈ domainKeywords) →
          ∀ c ∈ semanticClusters R inv options, i ∈ c.members ↔ c.name = subject domainKeywords d) := by
  have hgroups := groupsByKey_semanticClusters R inv options
  refine ⟨hgroups, fun i d hi => ⟨?_, ?_⟩⟩
  · intro keyword hfirst c hc
    rw [hgroups.mem_members_iff_of_getElem? hc hi, hfirst.subject_eq]
  · intro hnone c hc
    rw [hgroups.mem_members_iff_of_getElem? hc hi, subject_eq_of_no_new_keyword hnone]

def pondDeclarations : List Declaration := [
  { kind := .function, name := "feedFish", file := "pond/feed.go", line := 3 },
  { kind := .function, name := "orderFishFood", file := "pond/food.go", line := 3 }]

def pondOptions : ClusteringOptions := { extraKeywords := ["Order", "Fish"] }

theorem semanticClusters_by_subject_pond :
    ∃ i d, (Inventory.build pondDeclarations).declarations[i]? = some d ∧ d.mentions "order" = true ∧
      FirstNewKeyword pondOptions d "Fish" ∧
      ∃ c ∈ semanticClusters Float (Inventory.build pondDeclarations) pondOptions,
        c.name = "fish" ∧ i ∈ c.members := by
  obtain ⟨hgroups, hmembers⟩ :=
    semanticClusters_by_subject (R := Float) (Inventory.build pondDeclarations) pondOptions
  have hfish : ∃ c ∈ semanticClusters Float (Inventory.build pondDeclarations) pondOptions, c.name = "fish" := by
    rw [hgroups.exists_iff_of_build]
    decide +kernel
  have hfood : ∃ d ∈ pondDeclarations, d.mentions "order" = true ∧ d.mentions (lower "Fish") = true := by
    decide +kernel
  have hnew : lower "Fish" ∉ domainKeywords := by decide +kernel
  have hbefore : ∀ k ∈ ["Order"], lower k ∈ domainKeywords := by decide +kernel
  obtain ⟨c, hc, hname⟩ := hfish
  obtain ⟨d, hd, horder, hmentions⟩ := hfood
  obtain ⟨i, hi⟩ := Inventory.exists_getElem?_of_mem (Inventory.mem_declarations_build.2 hd)
  have hfirst : FirstNewKeyword pondOptions d "Fish" :=
    ⟨hnew, hmentions, ["Order"], [], rfl, fun k hk _ => hbefore k hk⟩
  have hlower : c.name = lower "Fish" := by
    rw [hname]
    decide +kernel
  exact ⟨i, d, hi, horder, hfirst, c, hc, hname, ((hmembers i d hi).1 "Fish" hfirst c hc).2 hlower⟩

def userOrderDeclarations : List Declaration := [
  { kind := .function, name := "loadUserOrder", file := "shop/load.go", line := 3 },
  { kind := .function, name := "saveUserOrder", file := "shop/save.go", line := 3 }]

theorem semanticClusters_keeps_domain_order :
    ∃ c ∈ semanticClusters Float (Inventory.build userOrderDeclarations) { extraKeywords := ["order"] },
      c.name = "user" ∧ ∃ d ∈ c.declarations (Inventory.build userOrderDeclarations), d.mentions "order" = true := by
  have hgroups := groupsByKey_semanticClusters Float (Inventory.build userOrderDeclarations)
    { extraKeywords := ["order"] }
  have huser : ∃ c ∈ semanticClusters Float (Inventory.build userOrderDeclarations) { extraKeywords := ["order"] },
      c.name = "user" := by
    rw [hgroups.exists_iff_of_build]
    decide +kernel
  have hload : ∃ d ∈ userOrderDeclarations, d.mentions "order" = true ∧
      subject (ClusteringOptions.vocabulary { extraKeywords := ["order"] }) d = "user" := by
    decide +kernel
  obtain ⟨c, hc, hname⟩ := huser
  obtain ⟨d, hd, horder, hsubject⟩ := hload
  refine ⟨c, hc, hname, d, ?_, horder⟩
  exact (hgroups.mem_declarations_iff hc).2 ⟨Inventory.mem_declarations_build.2 hd, hsubject.trans hname.symm⟩

end Demarcation
