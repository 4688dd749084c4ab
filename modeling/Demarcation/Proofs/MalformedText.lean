import Demarcation.UserBoundary

namespace Demarcation

namespace Fault

def isMalformedText : Fault → Bool
  | .badToml | .badJson | .tooManyDigits _ _ => true
  | _ => false

end Fault

def SignalsMalformed {α : Type} (x : Except Fault α) : Prop := ∀ fault, x = .error fault → fault.isMalformedText = true

namespace SignalsMalformed

variable {α β : Type} {x : Except Fault α} {f : α → Except Fault β}

theorem ok (a : α) : SignalsMalformed (.ok a : Except Fault α) := nofun

theorem error {fault : Fault} (h : fault.isMalformedText = true) : SignalsMalformed (.error fault : Except Fault α) := by
  intro fault' hfault
  rw [← Except.error.inj hfault]
  exact h

theorem bind (hx : SignalsMalformed x) (hf : ∀ a, SignalsMalformed (f a)) : SignalsMalformed (x >>= f) := by
  intro fault h
  cases hcase : x with
  | error fault' =>
    rw [hcase, error_bind] at h
    rw [← Except.error.inj h]
    exact hx fault' hcase
  | ok a =>
    rw [hcase, ok_bind] at h
    exact hf a fault h

end SignalsMalformed

namespace Document.Json

variable {R : Type} [Scalar R] {limits : Limits}

/-- Nothing well-formed is refused but long numbers. -/
structure Limits.IsLax (limits : Limits) : Prop where
  depth : limits.depth = none
  replaces : limits.replaces = true

theorem signalsMalformed_wellFormed {α : Type} (a : Option α) : SignalsMalformed (wellFormed a) := by
  cases a with
  | none => exact .error rfl
  | some a => exact .ok a

theorem signalsMalformed_readString (h : limits.IsLax) (fuel : Nat) (done cs : List Char) :
    SignalsMalformed (readString limits fuel done cs) := by
  fun_induction readString limits fuel done cs with
  | case1 => exact .error rfl
  | case2 => exact .error rfl
  | case3 => exact .ok _
  | case4 done fuel cs ih₁ ih₂ =>
    refine (signalsMalformed_wellFormed _).bind fun read => ?_
    split
    · next c cs' => exact ih₁ c cs'
    · next cs' =>
      rw [if_pos h.replaces]
      exact ih₂ cs'
  | case5 done fuel c cs hc ih =>
    exact (signalsMalformed_wellFormed _).bind ih
  | case6 => exact .error rfl
  | case7 done fuel c cs hquote hescape hunit hchar ih => exact ih

theorem signalsMalformed_readNumber (cs : List Char) :
    SignalsMalformed (readNumber limits cs : Except Fault (Document R × List Char)) := by
  unfold readNumber
  dsimp only
  split
  · exact .error rfl
  · split
    · split
      · exact .error rfl
      · exact .ok _
    · exact .ok _

theorem signalsMalformed_readSimple (cs : List Char) :
    SignalsMalformed (readSimple limits cs : Except Fault (Document R × List Char)) := by
  unfold readSimple
  split
  · exact .ok _
  · exact signalsMalformed_readNumber cs

theorem Limits.IsLax.inside (h : limits.IsLax) : limits.inside = .ok limits := by
  rw [Limits.inside, h.depth]

theorem signalsMalformed_readValue (h : limits.IsLax) (fuel : Nat) :
    (∀ cs, SignalsMalformed (readValue limits fuel cs : Except Fault (Document R × List Char))) ∧
      (∀ done cs, SignalsMalformed (readElements limits fuel done cs : Except Fault (List (Document R) × List Char))) ∧
        ∀ done cs,
          SignalsMalformed (readEntries limits fuel done cs : Except Fault (List (String × Document R) × List Char)) := by
  induction fuel with
  | zero => exact ⟨fun _ => .error rfl, fun _ _ => .error rfl, fun _ _ => .error rfl⟩
  | succ fuel ih =>
    obtain ⟨hvalue, helements, hentries⟩ := ih
    refine ⟨fun cs => ?_, fun done cs => ?_, fun done cs => ?_⟩
    · unfold readValue
      split
      · exact (signalsMalformed_readString h _ _ _).bind fun _ => .ok _
      · rw [h.inside, ok_bind]
        split
        · exact .ok _
        · exact (helements _ _).bind fun _ => .ok _
      · rw [h.inside, ok_bind]
        split
        · exact .ok _
        · exact (hentries _ _).bind fun _ => .ok _
      · exact signalsMalformed_readSimple _
    · unfold readElements
      refine (hvalue cs).bind ?_
      rintro ⟨d, rest⟩
      dsimp only
      split
      · exact helements _ _
      · exact .ok _
      · exact .error rfl
    · unfold readEntries
      split
      · refine (signalsMalformed_readString h _ _ _).bind ?_
        rintro ⟨key, rest⟩
        dsimp only
        split
        · refine (hvalue _).bind ?_
          rintro ⟨d, rest⟩
          dsimp only
          split
          · exact hentries _ _
          · exact .ok _
          · exact .error rfl
        · exact .error rfl
      · exact .error rfl

theorem signalsMalformed_read (h : limits.IsLax) (text : String) :
    SignalsMalformed (read text limits : Except Fault (Document R)) := by
  unfold read
  refine ((signalsMalformed_readValue h _).1 _).bind ?_
  rintro ⟨d, rest⟩
  dsimp only
  split
  · exact .ok _
  · exact .error rfl

end Document.Json

end Demarcation
