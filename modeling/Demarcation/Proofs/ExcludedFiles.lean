import Mathlib
import Demarcation.Proofs.FilePatterns
import Demarcation.Proofs.PathPieces
import Demarcation.Scan

namespace Demarcation

open Text Text.Glob

section Names

theorem exists_eq_append_iff {s t : String} : (∃ stem, s = stem ++ t) ↔ t.toList <:+ s.toList := by
  constructor
  · rintro ⟨stem, rfl⟩
    exact ⟨stem.toList, String.toList_append.symm⟩
  · rintro ⟨stem, hs⟩
    refine ⟨String.ofList stem, ?_⟩
    rw [← String.toList_inj, String.toList_append, String.toList_ofList, hs]

theorem exists_append_eq_iff {s t : String} : (∃ rest, s = t ++ rest) ↔ t.toList <+: s.toList := by
  constructor
  · rintro ⟨rest, rfl⟩
    exact ⟨rest.toList, String.toList_append.symm⟩
  · rintro ⟨rest, hs⟩
    refine ⟨String.ofList rest, ?_⟩
    rw [← String.toList_inj, String.toList_append, String.toList_ofList, hs]

theorem exists_between_iff {s start stop : String} :
    (∃ stem, s = start ++ stem ++ stop) ↔ Fits [start.toList, stop.toList] s.toList := by
  rw [fits_cons_cons]
  constructor
  · rintro ⟨stem, rfl⟩
    refine ⟨stem.toList, _, ?_, rfl⟩
    rw [String.toList_append, String.toList_append, List.append_assoc]
  · rintro ⟨stem, _, hs, rfl⟩
    refine ⟨String.ofList stem, ?_⟩
    rw [← String.toList_inj, hs, String.toList_append, String.toList_append, String.toList_ofList, List.append_assoc]

def directoriesOf (path : String) : List String := (splitAll '/' path.toList).dropLast.map String.ofList

variable {path name ending : String}

theorem mem_map_ofList_iff {l : List (List Char)} : name ∈ l.map String.ofList ↔ name.toList ∈ l := by
  rw [List.mem_map]
  constructor
  · rintro ⟨cs, hcs, rfl⟩
    rwa [String.toList_ofList]
  · intro h
    exact ⟨_, h, String.ofList_toList⟩

theorem mem_directoriesOf_iff (h : '/' ∉ name.toList) :
    name ∈ directoriesOf path ↔
      name.toList ++ ['/'] <+: path.toList ∨ '/' :: name.toList ++ ['/'] <:+: path.toList := by
  rw [directoriesOf, mem_map_ofList_iff, mem_dropLast_splitAll_iff h]

theorem mem_tail_directoriesOf_iff (h : '/' ∉ name.toList) :
    name ∈ (directoriesOf path).tail ↔ '/' :: name.toList ++ ['/'] <:+: path.toList := by
  rw [directoriesOf, ← List.map_tail, mem_map_ofList_iff, mem_tail_dropLast_splitAll_iff h]

theorem exists_baseName_eq_iff (h : '/' ∉ ending.toList) :
    (∃ stem, baseName path = stem ++ ending) ↔ ending.toList <:+ path.toList := by
  rw [exists_eq_append_iff, baseName, String.toList_ofList, suffix_snd_splitAfterLast_iff h]

end Names

section Patterns

variable (path name ending root nested : String)

theorem accepts_beneath_iff (hname : '/' ∉ name.toList) (hplain : IsPlain nested.toList)
    (hpieces : splitAll '*' nested.toList = [[], [], '/' :: name.toList ++ ['/'], [], []]) :
    accepts nested path = true ↔ name ∈ (directoriesOf path).tail := by
  rw [accepts_iff_fits hplain, hpieces, mem_tail_directoriesOf_iff hname, fits_cons_nil_cons,
    fits_nil_cons (List.cons_ne_nil _ _), ← fits_inside, fits_nil_cons (List.cons_ne_nil _ _)]
  simp only [fits_cons_nil_cons]

theorem accepts_directory_iff (hname : '/' ∉ name.toList) (hroot : IsPlain root.toList)
    (hrootPieces : splitAll '*' root.toList = [name.toList ++ ['/'], [], []]) (hnested : IsPlain nested.toList)
    (hnestedPieces : splitAll '*' nested.toList = [[], [], '/' :: name.toList ++ ['/'], [], []]) :
    accepts root path = true ∨ accepts nested path = true ↔ name ∈ directoriesOf path := by
  rw [accepts_beneath_iff path name nested hname hnested hnestedPieces, accepts_iff_fits hroot, hrootPieces, fits_cons_nil_cons,
    fits_beginning, mem_directoriesOf_iff hname, mem_tail_directoriesOf_iff hname]

/-- An ending of file names. Below the root it is kept out by the pattern for the root already. -/
theorem accepts_ending_iff (hending : '/' ∉ ending.toList) (hroot : IsPlain root.toList)
    (hrootPieces : splitAll '*' root.toList = [[], ending.toList]) (hnested : IsPlain nested.toList)
    (hnestedPieces : splitAll '*' nested.toList = [[], [], ['/'], ending.toList]) :
    accepts root path = true ∨ accepts nested path = true ↔ ∃ stem, baseName path = stem ++ ending := by
  rw [accepts_iff_fits hroot, hrootPieces, accepts_iff_fits hnested, hnestedPieces, fits_ending, fits_cons_nil_cons,
    exists_baseName_eq_iff hending, or_iff_left_iff_imp, fits_nil_cons (List.cons_ne_nil _ _)]
  rintro ⟨rest, hrest, skipped, _, hslash, rfl⟩
  have hends : ending.toList <:+ rest := by
    rw [hslash, ← List.append_assoc]
    exact List.suffix_append _ _
  exact hends.trans hrest

theorem fits_affixes {c : Char} {start stop cs : List Char} (h : c ∉ stop) :
    Fits [start ++ [c], stop] cs ↔ start ++ [c] <+: cs ∧ stop <:+ cs := by
  rw [fits_cons_cons]
  constructor
  · rintro ⟨skipped, _, rfl, rfl⟩
    refine ⟨List.prefix_append _ _, ?_⟩
    rw [← List.append_assoc]
    exact List.suffix_append _ _
  · rintro ⟨⟨rest, rfl⟩, hends⟩
    rw [List.append_assoc, List.singleton_append, suffix_append_cons_iff h] at hends
    obtain ⟨skipped, rfl⟩ := hends
    exact ⟨skipped, _, rfl, rfl⟩

theorem fits_nil_affixes {c : Char} {start stop cs : List Char} (h : c ∉ stop) :
    Fits [[], start ++ [c], stop] cs ↔ start ++ [c] <:+: cs ∧ stop <:+ cs := by
  rw [fits_nil_cons (List.cons_ne_nil _ _)]
  simp only [fits_affixes h]
  constructor
  · rintro ⟨rest, hrest, hbegins, hends⟩
    exact ⟨hbegins.isInfix.trans hrest.isInfix, hends.trans hrest⟩
  · rintro ⟨⟨before, rest, rfl⟩, hends⟩
    refine ⟨start ++ [c] ++ rest, ?_, List.prefix_append _ _, ?_⟩
    · rw [List.append_assoc before]
      exact List.suffix_append _ _
    · rw [← List.append_assoc, List.append_assoc _ [c], List.singleton_append, suffix_append_cons_iff h] at hends
      rw [List.append_assoc, List.singleton_append, suffix_append_cons_iff h]
      exact hends

theorem exists_piece_iff (affix : String) :
    (∃ piece ∈ splitAll '/' path.toList, affix.toList <+: piece) ↔
      (∃ d ∈ directoriesOf path, ∃ rest, d = affix ++ rest) ∨ ∃ rest, baseName path = affix ++ rest := by
  rw [splitAll_eq_dropLast_append]
  simp only [List.mem_append, List.mem_singleton, or_and_right, exists_or, exists_eq_left, exists_append_eq_iff,
    directoriesOf, List.mem_map, exists_exists_and_eq_and, String.toList_ofList, baseName]

/-- What the two patterns for Python tests keep out: a file that is called so, and any Python file in a directory whose
name begins so, since a star stands for slashes, too. -/
theorem accepts_testModule_iff :
    accepts "test_*.py" path = true ∨ accepts "**/test_*.py" path = true ↔
      (∃ stem, baseName path = "test_" ++ stem ++ ".py") ∨
        (∃ stem, baseName path = stem ++ ".py") ∧ ∃ d ∈ directoriesOf path, ∃ rest, d = "test_" ++ rest := by
  have hstart : "test_".toList = ['t', 'e', 's', 't'] ++ ['_'] := rfl
  have hroot : splitAll '*' "test_*.py".toList = [['t', 'e', 's', 't'] ++ ['_'], ".py".toList] := by decide
  have hnested : splitAll '*' "**/test_*.py".toList = [[], [], '/' :: ['t', 'e', 's', 't'] ++ ['_'], ".py".toList] := by
    decide
  have hname : (∃ stem, baseName path = "test_" ++ stem ++ ".py") ↔
      (∃ rest, baseName path = "test_" ++ rest) ∧ ∃ stem, baseName path = stem ++ ".py" := by
    rw [exists_between_iff, hstart, fits_affixes (by decide), exists_append_eq_iff, exists_eq_append_iff, hstart]
  have hpiece := exists_piece_iff path "test_"
  rw [exists_prefix_splitAll_iff (by decide), hstart, ← List.cons_append] at hpiece
  rw [accepts_iff_fits (by decide), hroot, accepts_iff_fits (by decide), hnested, fits_cons_nil_cons,
    fits_affixes (by decide), fits_nil_affixes (by decide), hname, exists_baseName_eq_iff (by decide), ← or_and_right,
    hpiece]
  constructor
  · rintro ⟨hdirectory | hfile, hending⟩
    · exact Or.inr ⟨hending, hdirectory⟩
    · exact Or.inl ⟨hfile, hending⟩
  · rintro (⟨hfile, hending⟩ | ⟨hending, hdirectory⟩)
    · exact ⟨Or.inr hfile, hending⟩
    · exact ⟨Or.inl hdirectory, hending⟩

end Patterns

section Excluded

structure IsOrdinary (path : String) : Prop where
  notVendored : "vendor" ∉ directoriesOf path
  notAmongTests : "tests" ∉ directoriesOf path
  notTestData : "testdata" ∉ (directoriesOf path).tail
  notGoTest : ¬ ∃ stem, baseName path = stem ++ "_test.go"
  notPythonTest : ¬ ∃ stem, baseName path = stem ++ "_test.py"
  notTestModule : ¬ ∃ stem, baseName path = "test_" ++ stem ++ ".py"
  notInTestPackage : (∃ stem, baseName path = stem ++ ".py") → ∀ d ∈ directoriesOf path, ¬ ∃ rest, d = "test_" ++ rest

theorem excluded_iff (path : String) :
    Setting.defaultExcludes.any (accepts · path) = true ↔ ¬ IsOrdinary path := by
  have hvendor := accepts_directory_iff path "vendor" "vendor/**" "**/vendor/**"
    (by decide) (by decide) (by decide) (by decide) (by decide)
  have htests := accepts_directory_iff path "tests" "tests/**" "**/tests/**"
    (by decide) (by decide) (by decide) (by decide) (by decide)
  have htestdata := accepts_beneath_iff path "testdata" "**/testdata/**" (by decide) (by decide) (by decide)
  have hgo := accepts_ending_iff path "_test.go" "*_test.go" "**/*_test.go"
    (by decide) (by decide) (by decide) (by decide) (by decide)
  have hpython := accepts_ending_iff path "_test.py" "*_test.py" "**/*_test.py"
    (by decide) (by decide) (by decide) (by decide) (by decide)
  have hmodule := accepts_testModule_iff path
  have hpatterns : Setting.defaultExcludes.any (accepts · path) = true ↔
      (accepts "vendor/**" path = true ∨ accepts "**/vendor/**" path = true) ∨
        (accepts "*_test.go" path = true ∨ accepts "**/*_test.go" path = true) ∨
          (accepts "test_*.py" path = true ∨ accepts "**/test_*.py" path = true) ∨
            (accepts "*_test.py" path = true ∨ accepts "**/*_test.py" path = true) ∨
              (accepts "tests/**" path = true ∨ accepts "**/tests/**" path = true) ∨
                accepts "**/testdata/**" path = true := by
    simp only [Setting.defaultExcludes, List.any_cons, List.any_nil, Bool.or_false, Bool.or_eq_true, or_assoc]
  rw [hpatterns, hvendor, htests, htestdata, hgo, hpython, hmodule]
  constructor
  · rintro (h | h | (h | ⟨hending, d, hd, h⟩) | h | h | h) hordinary
    · exact hordinary.notVendored h
    · exact hordinary.notGoTest h
    · exact hordinary.notTestModule h
    · exact hordinary.notInTestPackage hending d hd h
    · exact hordinary.notPythonTest h
    · exact hordinary.notAmongTests h
    · exact hordinary.notTestData h
  · intro h
    by_contra hnone
    rw [not_or, not_or, not_or, not_or, not_or, not_or, not_and] at hnone
    obtain ⟨hvendor, hgo, ⟨hmodule, hpackage⟩, hpython, htests, htestdata⟩ := hnone
    refine h ⟨hvendor, htests, htestdata, hgo, hpython, hmodule, ?_⟩
    intro hending d hd hbegins
    exact hpackage hending ⟨d, hd, hbegins⟩

end Excluded

namespace Scan

variable {s : Scan} {t : FileTree} {root path : String} {paths : List String}

theorem mem_files_iff :
    path ∈ s.files t root ↔ ∃ place ∈ t.filesBelow root, s.admits place = true ∧ "/".intercalate place = path := by
  rw [files, List.mem_map]
  simp only [List.mem_mergeSort, List.mem_filter, and_assoc]

theorem admits_iff {place : List String} :
    s.admits place = true ↔
      ({ s with excludes := [] } : Scan).admits place = true ∧
        s.excludes.any (accepts · ("/".intercalate place)) = false := by
  simp [admits]

theorem mem_files_of_default_iff (hdefault : s.excludes = Setting.defaultExcludes) :
    path ∈ s.files t root ↔ path ∈ ({ s with excludes := [] } : Scan).files t root ∧ IsOrdinary path := by
  simp only [mem_files_iff, admits_iff (s := s), hdefault]
  constructor
  · rintro ⟨place, hplace, ⟨hadmits, hkept⟩, rfl⟩
    refine ⟨⟨place, hplace, hadmits, rfl⟩, ?_⟩
    by_contra hordinary
    rw [(excluded_iff _).2 hordinary] at hkept
    cases hkept
  · rintro ⟨⟨place, hplace, hadmits, rfl⟩, hordinary⟩
    refine ⟨place, hplace, ⟨hadmits, ?_⟩, rfl⟩
    rw [← Bool.not_eq_true, excluded_iff, not_not]
    exact hordinary

/-- With the default patterns a scan finds what it finds without patterns, except for the files that are not ordinary. -/
theorem run_ordinary (hdefault : s.excludes = Setting.defaultExcludes) (hrun : s.run t root = .ok paths) (path : String) :
    path ∈ paths ↔ path ∈ ({ s with excludes := [] } : Scan).files t root ∧ IsOrdinary path := by
  have hfiles : s.files t root = paths := by
    obtain ⟨-, -, hpaths⟩ := exists_of_bind_eq_ok hrun
    exact Except.ok.inj hpaths
  rw [← hfiles]
  exact mem_files_of_default_iff hdefault

def testdataTree : FileTree := ⟨[
  (["shop"], .directory),
  (["shop", "testdata"], .directory),
  (["shop", "testdata", "sample.go"], .file []),
  (["shop", "pkg"], .directory),
  (["shop", "pkg", "testdata"], .directory),
  (["shop", "pkg", "testdata", "sample.go"], .file [])]⟩

theorem run_testdataTree : ({} : Scan).run testdataTree "shop" = .ok (({} : Scan).files testdataTree "shop") := by
  have hroot : checkRoot testdataTree "shop" = .ok () := by cbv
  rw [run, hroot]
  rfl

theorem sample_mem_files_testdataTree : "testdata/sample.go" ∈ ({} : Scan).files testdataTree "shop" := by
  refine mem_files_iff.2 ⟨["testdata", "sample.go"], by decide, ?_, ?_⟩
  · cbv
  · cbv

theorem run_ordinary_testdataTree :
    ({} : Scan).excludes = Setting.defaultExcludes ∧
      ∃ paths, ({} : Scan).run testdataTree "shop" = .ok paths ∧
        "testdata/sample.go" ∈ paths ∧ IsOrdinary "testdata/sample.go" ∧ "pkg/testdata/sample.go" ∉ paths := by
  have hkept := run_ordinary rfl run_testdataTree
  refine ⟨rfl, _, run_testdataTree, sample_mem_files_testdataTree, ?_, ?_⟩
  · exact ((hkept _).1 sample_mem_files_testdataTree).2
  · intro hmem
    exact ((hkept _).1 hmem).2.notTestData (by decide)

theorem run_keeps_testdata :
    ∃ paths path, ({} : Scan).run testdataTree "shop" = .ok paths ∧ path ∈ paths ∧ "testdata" ∈ directoriesOf path :=
  ⟨_, _, run_testdataTree, sample_mem_files_testdataTree, by decide⟩

end Scan

end Demarcation
