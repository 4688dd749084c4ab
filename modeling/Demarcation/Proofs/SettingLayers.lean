import Demarcation.Proofs.DistinctKeys
import Demarcation.Settings

namespace Demarcation

namespace Document

variable {R : Type} {key : String} {value : Document R} {entries more : List (String × Document R)}

theorem put_of_not_mem (h : key ∉ entries.map Prod.fst) : put key value entries = entries ++ [(key, value)] := by
  induction entries with
  | nil => rfl
  | cons e rest ih =>
    rw [List.map_cons, List.mem_cons, not_or] at h
    rw [put, if_neg (Ne.symm h.1), ih h.2]
    rfl

theorem putAll_eq_append (h : ((entries ++ more).map Prod.fst).Nodup) : putAll entries more = entries ++ more := by
  induction more generalizing entries with
  | nil => exact (List.append_nil entries).symm
  | cons e more ih =>
    have hassoc : entries ++ e :: more = (entries ++ [e]) ++ more := by rw [List.append_assoc, List.singleton_append]
    have hnew : e.1 ∉ entries.map Prod.fst := by
      rw [List.map_append, List.nodup_append'] at h
      exact fun hmem => h.2.2 hmem List.mem_cons_self
    rw [hassoc] at h ⊢
    rw [← ih h, putAll, List.foldl_cons, put_of_not_mem hnew]
    rfl

theorem putAll_nil (h : (entries.map Prod.fst).Nodup) : putAll [] entries = entries := putAll_eq_append h

theorem find?_append : find? key (entries ++ more) = (find? key entries).or (find? key more) := by
  induction entries with
  | nil => rfl
  | cons e rest ih =>
    by_cases hkey : e.1 = key
    · simp only [List.cons_append, find?, if_pos hkey, Option.some_or]
    · simp only [List.cons_append, find?, if_neg hkey, ih]

theorem find?_eq_none_of_not_mem (h : key ∉ entries.map Prod.fst) : find? key entries = none := by
  cases hvalue : find? key entries with
  | none => rfl
  | some value => exact absurd (List.mem_map_of_mem (mem_of_find? hvalue)) h

theorem find?_putAll : find? key (putAll entries more) = (find? key more.reverse).or (find? key entries) := by
  induction more generalizing entries with
  | nil => rfl
  | cons e more ih =>
    have hput : find? key (put e.1 e.2 entries) = (find? key [e]).or (find? key entries) := by
      by_cases hkey : e.1 = key
      · rw [← hkey, find?_put_self, find?, if_pos rfl, Option.some_or]
      · rw [find?_put_of_ne (Ne.symm hkey), find?, if_neg hkey, find?, Option.none_or]
    rw [putAll, List.foldl_cons]
    exact ih.trans (by rw [hput, List.reverse_cons, find?_append, Option.or_assoc])

theorem find?_reverse (h : (entries.map Prod.fst).Nodup) : find? key entries.reverse = find? key entries := by
  induction entries with
  | nil => rfl
  | cons e rest ih =>
    rw [List.map_cons, List.nodup_cons] at h
    rw [List.reverse_cons, find?_append, ih h.2]
    by_cases hkey : e.1 = key
    · rw [find?_eq_none_of_not_mem (hkey ▸ h.1), Option.none_or]
      simp only [find?, if_pos hkey]
    · simp only [find?, if_neg hkey, Option.or_none]

theorem nodup_keys_putAll (h : (entries.map Prod.fst).Nodup) : ((putAll entries more).map Prod.fst).Nodup := by
  induction more generalizing entries with
  | nil => exact h
  | cons e more ih => exact ih (nodup_keys_put h)

end Document

open Document

theorem Setting.name_injective {s s' : Setting} (h : s.name = s'.name) : s = s' := by
  have hfound := Setting.ofName?_name s
  rw [h, Setting.ofName?_name] at hfound
  exact (Option.some_inj.1 hfound).symm

theorem Setting.name_of_ofName? {s : Setting} {key : String} (h : Setting.ofName? key = some s) : s.name = key := by
  have hname := List.find?_some h
  exact of_decide_eq_true hname

namespace Settings

variable {R : Type} [Scalar R] {s : Setting} {c c' g : Settings R} {given : Layer R} {key : String} {value : Document R}

def withValue (c : Settings R) (s : Setting) (value : Document R) : Settings R :=
  ⟨fun x => if x = s then value else c.value x⟩

def Known (given : Layer R) : Prop := ∀ e ∈ given, (Setting.ofName? e.1).isSome

section Assembling

omit [Scalar R] in
theorem find?_layer (c : Settings R) (s : Setting) : find? s.name c.layer = some (c.value s) := by
  cases s <;> rfl

theorem assemble_put (s : Setting) (value : Document R) (given : Layer R) :
    assemble (put s.name value given) = (assemble given).withValue s value := by
  unfold assemble withValue
  congr 1
  funext x
  by_cases hx : x = s
  · rw [if_pos hx, hx, find?_put_self]
    rfl
  · rw [if_neg hx, find?_put_of_ne (mt Setting.name_injective hx)]

theorem assemble_layer (c : Settings R) : assemble c.layer = c := by
  unfold assemble
  congr 1
  funext x
  rw [find?_layer]
  rfl

omit [Scalar R] in
theorem known_layer (c : Settings R) : Known c.layer := by
  intro e he
  obtain ⟨x, -, rfl⟩ := List.mem_map.1 he
  rw [Setting.ofName?_name]
  rfl

omit [Scalar R] in
theorem known_put (h : Known given) : Known (put s.name value given) := by
  intro e he
  have hkey : e.1 ∈ (put s.name value given).map Prod.fst := List.mem_map_of_mem he
  rw [keys_put] at hkey
  have hcases : e.1 ∈ given.map Prod.fst ∨ e.1 = s.name := by
    split at hkey
    · exact Or.inl hkey
    · simpa using hkey
  obtain hold | hnew := hcases
  · obtain ⟨e', he', heq⟩ := List.mem_map.1 hold
    exact heq ▸ h e' he'
  · rw [hnew, Setting.ofName?_name]
    rfl

omit [Scalar R] in
theorem known_putAll {more : Layer R} (h : Known given) (hmore : Known more) : Known (putAll given more) := by
  induction more generalizing given with
  | nil => exact h
  | cons e more ih =>
    obtain ⟨hkey, hmore⟩ := List.forall_mem_cons.1 hmore
    obtain ⟨s, hs⟩ := Option.isSome_iff_exists.1 hkey
    have hput : Known (put e.1 e.2 given) := Setting.name_of_ofName? hs ▸ known_put h
    exact ih hput hmore

omit [Scalar R] in
theorem known_of_put (h : Known (put key value given)) : Known given := by
  intro e he
  have hkey : e.1 ∈ (put key value given).map Prod.fst := by
    rw [keys_put]
    split
    · exact List.mem_map_of_mem he
    · exact List.mem_append_left _ (List.mem_map_of_mem he)
  obtain ⟨e', he', heq⟩ := List.mem_map.1 hkey
  exact heq ▸ h e' he'

theorem ofLayer_of_known (h : Known given) : ofLayer given = (assemble given).validate :=
  if_pos (List.all_eq_true.2 h)

theorem known_of_ofLayer (h : ofLayer given = .ok c) : Known given := by
  by_contra hunknown
  rw [ofLayer, if_neg (mt List.all_eq_true.1 hunknown)] at h
  cases h

theorem value_assemble (given : Layer R) (s : Setting) :
    (assemble given).value s = (find? s.name given).getD s.default := rfl

theorem assemble_congr {given given' : Layer R} (h : ∀ s : Setting, find? s.name given = find? s.name given') :
    assemble given = assemble given' := by
  unfold assemble
  simp only [h]

theorem ofLayer_of_not_known (h : ¬ Known given) : ofLayer given = .error .wrongType :=
  if_neg (mt List.all_eq_true.1 h)

end Assembling

section Checking

theorem check_congr (h : ∀ x, x ≠ .workers → c.value x = c'.value x) : c.check = c'.check := by
  unfold check
  rw [h .sampling (by decide), h .maxFiles (by decide), h .maxDependencyNodes (by decide), h .minConfidence (by decide)]

theorem validate_eq (c : Settings R) :
    c.validate = c.check >>= fun _ =>
      (c.value .workers).asInt.map (max 1) >>= fun workers => .ok (c.withValue .workers (.int workers)) := by
  unfold validate
  congr 1
  funext
  cases (c.value .workers).asInt with
  | error fault => rfl
  | ok workers => rfl

omit [Scalar R] in
theorem withValue_congr (h : ∀ x, x ≠ s → c.value x = c'.value x) (value : Document R) :
    c.withValue s value = c'.withValue s value := by
  unfold withValue
  congr 1
  funext x
  by_cases hx : x = s
  · rw [if_pos hx, if_pos hx]
  · rw [if_neg hx, if_neg hx, h x hx]

theorem validate_congr (h : ∀ x, x ≠ .workers → c.value x = c'.value x)
    (hworkers : (c.value .workers).asInt.map (max 1) = (c'.value .workers).asInt.map (max 1)) :
    c.validate = c'.validate := by
  rw [validate_eq, validate_eq, check_congr h, hworkers]
  congr 1
  funext _
  congr 1
  funext workers
  rw [withValue_congr h]

theorem validate_withValue (h : g.validate = .ok c) (s : Setting) (value : Document R) :
    (c.withValue s value).validate = (g.withValue s value).validate := by
  rw [validate_eq] at h
  obtain ⟨-, -, h⟩ := exists_of_bind_eq_ok h
  obtain ⟨workers, hworkers, h⟩ := exists_of_bind_eq_ok h
  cases h
  apply validate_congr
  · intro x hx
    by_cases hs : x = s
    · simp only [withValue, if_pos hs]
    · simp only [withValue, if_neg hs, if_neg hx]
  · by_cases hs : Setting.workers = s
    · simp only [withValue, if_pos hs]
    -- The number of workers is raised to one twice on the left, which is the same as once.
    · simp only [withValue, if_neg hs, if_true]
      cases hg : (g.value .workers).asInt with
      | error fault =>
        rw [hg] at hworkers
        cases hworkers
      | ok n =>
        rw [hg] at hworkers
        cases hworkers
        exact congrArg Except.ok (by omega)

end Checking

section Overriding

omit [Scalar R] in
theorem present_singleton (hvalue : value ≠ .null) (s : Setting) :
    present [(s.name, value)] = .ok [(s.name, value)] := by
  cases value with
  | null => exact absurd rfl hvalue
  | _ => simp only [present, Setting.ofName?_name]; rfl

theorem override_singleton (hvalue : value ≠ .null) (c : Settings R) (s : Setting) :
    c.override [(s.name, value)] = (c.withValue s value).validate := by
  have hput : putAll c.layer [(s.name, value)] = put s.name value c.layer := rfl
  rw [override, present_singleton hvalue, ok_bind, hput, ofLayer_of_known (known_put (known_layer c)), assemble_put,
    assemble_layer]

theorem exists_name_of_override (hvalue : value ≠ .null) (h : c.override [(key, value)] = .ok c') :
    ∃ s : Setting, s.name = key := by
  obtain ⟨layer, hlayer, -⟩ := exists_of_bind_eq_ok h
  cases hkey : Setting.ofName? key with
  | some s => exact ⟨s, Setting.name_of_ofName? hkey⟩
  | none =>
    cases value with
    | null => exact absurd rfl hvalue
    | _ => simp only [present, hkey] at hlayer; cases hlayer

end Overriding

end Settings

end Demarcation
