import Demarcation.Language.GoStatements
import Demarcation.Proofs.ForwardReading

namespace Demarcation.Go

open Grammar Grammar.Reader

section Tokens

variable {α : Type} {p : Reader α}

theorem looks_sameLine : Looks sameLine :=
  .bind .mode fun _ => .bind (.isNext _) fun _ => .ite .failure (.pure _)

theorem forward_mark (text : String) : Forward (mark text) := .token _

theorem forward_word (text : String) : Forward (word text) := .token _

theorem opens_nameAs (kind : Kind) : Opens (nameAs kind) := .leaf (.token _)

theorem opens_wordAs (kind : Kind) : Opens (wordAs kind) := .leaf (.token _)

theorem forward_names : Forward (separated (nameAs .name) (mark ",")) :=
  .separated (opens_nameAs _).forward (forward_mark _)

theorem forward_adjoining (hp : Forward p) : Forward (adjoining p) := .bind looks_sameLine.forward fun _ => hp

theorem forward_terminator : Forward terminator :=
  .bind (Looks.isNext _).forward fun _ => .ite (.bind (forward_mark _) fun _ => .pure _) <|
    .bind (Looks.isNext _).forward fun _ => .ite (.pure _) .failure

theorem forward_between {opening closing : String} {mode : Mode} (hp : Forward p) :
    Forward (between opening closing mode p) :=
  .bind (forward_mark _) fun _ => .bind (.within hp) fun _ => .bind (forward_mark _) fun _ => .pure _

theorem forward_commaList (hp : Forward p) : Forward (commaList p) :=
  .bind (.optional (.listed hp (forward_mark _))) fun _ => .pure _

theorem forward_terminated (hp : Forward p) : Forward (terminated p) :=
  .bind (.optional hp) fun
    | none => .pure _
    | some _ => .bind (.many (.bind forward_terminator fun _ => hp)) fun _ =>
      .bind (.optional forward_terminator) fun _ => .pure _

theorem forward_tag? : Forward tag? :=
  .bind (.optional (forward_adjoining (.token _))) fun _ => .pure _

theorem forward_specs {spec : Reader Tree} (hspec : Forward spec) : Forward (specs spec) :=
  .bind (Looks.isNext _).forward fun _ => .ite
    (forward_between (.many (.bind hspec fun _ => .bind forward_terminator fun _ => .pure _)))
    (.bind hspec fun _ => .pure _)

theorem forward_importSpec : Forward importSpec :=
  Opens.forward <| .leaf <| .bind (.optional (.firstOf_cons (forward_mark _) (.firstOf_cons (.token _) .firstOf_nil)))
    fun _ => .token _

theorem opens_importDeclaration : Opens importDeclaration :=
  .node <| .bind (forward_word _) fun _ => .bind (Looks.isNext _).forward fun _ => .ite
    (forward_between (forward_terminated forward_importSpec)) (.bind forward_importSpec fun _ => .pure _)

theorem opens_packageClause : Opens packageClause := .leaf (.bind (forward_word _) fun _ => .token _)

end Tokens

variable {self : Rule → Reader Tree} (hself : ∀ rule, Opens (self rule))

include hself

/-! ### Types -/

theorem opens_typeElement : Opens (typeElement self) := .node (.separated (hself .type).forward (forward_mark _))

theorem forward_typeArguments : Forward (typeArguments self) :=
  forward_between (.listed (opens_typeElement hself).forward (forward_mark _))

theorem opens_namedType : Opens (namedType self) :=
  have hqualified : Opens (node .other do
      let package ← leaf .other (token isName)
      let _ ← adjoining (mark ".")
      return [package, ← wordAs .typeName]) :=
    .node (.bind (Opens.leaf (.token _)).forward fun _ => .bind (forward_adjoining (forward_mark _)) fun _ =>
      .bind (opens_wordAs _).forward fun _ => .pure _)
  .look .start fun _ => .continue (.firstOf_cons hqualified (.firstOf_cons (opens_nameAs _) .firstOf_nil)) fun _ =>
    .bind (.optional (forward_adjoining (forward_typeArguments hself))) fun
      | none => .pure
      | some _ => .extend (.pure _)

theorem opens_typeParameter : Opens (typeParameter self) :=
  .node (.bind (forward_names) fun _ => .bind (opens_typeElement hself).forward fun _ => .pure _)

theorem opens_typeParameters : Opens (typeParameters self) :=
  .node (forward_between (.listed (opens_typeParameter hself).forward (forward_mark _)))

theorem opens_typed : Opens (typed self) := .node (.bind (hself .type).forward fun _ => .pure _)

theorem forward_parameter : Forward (parameter self) :=
  .firstOf_cons
    (Opens.node (.bind (.optional (opens_nameAs _).forward) fun _ => .bind (forward_mark _) fun _ =>
      .bind (opens_typed hself).forward fun _ => .pure _)).forward <|
  .firstOf_cons
    (Opens.node (.bind (forward_names) fun _ => .bind (opens_typed hself).forward fun _ => .pure _)).forward <|
  .firstOf_cons (Opens.node (.bind (opens_typed hself).forward fun _ => .pure _)).forward .firstOf_nil

theorem opens_parameters : Opens (parameters self) :=
  .node (forward_between (forward_commaList (forward_parameter hself)))

theorem forward_result? : Forward (result? self) :=
  .optional <| .bind looks_sameLine.forward fun _ => Opens.forward <| .node <|
    .bind (Looks.isNext _).forward fun _ => .ite
      (.bind (hself .parameters).forward fun _ => .pure _) (.bind (hself .type).forward fun _ => .pure _)

theorem forward_signature : Forward (signature self) :=
  .bind (hself .parameters).forward fun _ => .bind (forward_result? hself) fun _ => .pure _

omit hself in
theorem looks_endsField : Looks endsField := .bind .get fun _ => .pure _

theorem forward_field : Forward (field self) :=
  Opens.forward <| .node <|
  .firstOf_cons
    (.bind (.optional (forward_mark _)) fun _ =>
      .bind (Opens.node (.bind (opens_namedType hself).forward fun _ => .pure _)).forward fun _ =>
      .bind forward_tag? fun _ => .bind looks_endsField.forward fun _ => .ite (.bind .failure fun _ => .pure _) (.pure _)) <|
  .firstOf_cons
    (.bind forward_names fun _ => .bind looks_sameLine.forward fun _ =>
      .bind (opens_typed hself).forward fun _ => .bind forward_tag? fun _ => .pure _)
    .firstOf_nil

theorem forward_method : Forward (method self) :=
  Opens.forward <| .node <| .bind (opens_wordAs _).forward fun _ => .bind (forward_signature hself) fun _ => .pure _

theorem opens_structType : Opens (structType self) :=
  .node <| .bind (forward_word _) fun _ => forward_between (forward_terminated (forward_field hself))

theorem opens_interfaceType : Opens (interfaceType self) :=
  .node <| .bind (forward_word _) fun _ => forward_between <| forward_terminated <|
    .firstOf_cons (forward_method hself) (.firstOf_cons (opens_typeElement hself).forward .firstOf_nil)

theorem opens_mapType : Opens (mapType self) :=
  .node <| .bind (forward_word _) fun _ => .bind (forward_between (hself .type).forward) fun _ =>
    .bind (hself .type).forward fun _ => .pure _

theorem opens_channelType : Opens (channelType self) :=
  .node <| .bind (Looks.isNext _).forward fun _ => .ite
    (.bind (forward_mark _) fun _ => .bind (forward_word _) fun _ => .bind (hself .type).forward fun _ => .pure _)
    (.bind (forward_word _) fun _ => .bind (.optional (forward_mark _)) fun _ =>
      .bind (hself .type).forward fun _ => .pure _)

theorem opens_functionType : Opens (functionType self) :=
  .node <| .bind (forward_word _) fun _ => forward_signature hself

theorem opens_arrayType : Opens (arrayType self) :=
  .node <| .bind
    (forward_between <| .optional <| .firstOf_cons (.bind (forward_mark _) fun _ => .pure _) <|
      .firstOf_cons (.map (hself .expression).forward _) .firstOf_nil)
    fun _ => .bind (hself .type).forward fun _ => .pure _

theorem opens_type : Opens (type self) :=
  .look .peek? fun
    | none => .failure
    | some _ => .ite (opens_structType hself) <| .ite (opens_interfaceType hself) <| .ite (opens_mapType hself) <|
      .ite (opens_channelType hself) <| .ite (opens_functionType hself) <| .ite (opens_arrayType hself) <|
      .ite (.node (.bind (.token _) fun _ => .bind (hself .type).forward fun _ => .pure _)) <|
      .ite (.node (.bind (forward_between (hself .type).forward) fun _ => .pure _)) (opens_namedType hself)

/-! ### Expressions -/

theorem forward_expressionList : Forward (expressionList self) :=
  .separated (hself .expression).forward (forward_mark _)

theorem forward_arguments : Forward (arguments self) :=
  forward_between <| forward_commaList <| .bind (hself .expression).forward fun _ =>
    .bind (.optional (forward_mark _)) fun _ => .pure _

theorem forward_typeFirstArguments : Forward (typeFirstArguments self) :=
  forward_between <| .bind (.optional (hself .type).forward) fun
    | none => .pure _
    | some _ => .bind (.many (.bind (forward_mark _) fun _ => (hself .expression).forward)) fun _ =>
      .bind (.optional (forward_mark _)) fun _ => .pure _

theorem forward_entry : Forward (entry self) :=
  have hpart : Forward (do if ← isNext (isMark "\x7b") then self .literalValue else self .expression) :=
    .bind (Looks.isNext _).forward fun _ => .ite (hself .literalValue).forward (hself .expression).forward
  .bind hpart fun _ => .bind (.optional (.bind (forward_mark _) fun _ => hpart)) fun
    | none => .pure _
    | some _ => .pure _

theorem opens_literalValue : Opens (literalValue self) :=
  .node <| .bind (forward_between (forward_commaList (forward_entry hself))) fun _ => .pure _

theorem opens_typeOperand : Opens (typeOperand self) :=
  .node <| .bind (hself .type).forward fun _ => .bind (Looks.isNext _).forward fun _ => .ite
    (.bind (hself .literalValue).forward fun _ => .pure _)
    (.bind
      (forward_between (.bind (hself .expression).forward fun _ => .bind (.optional (forward_mark _)) fun _ => .pure _))
      fun _ => .pure _)

theorem opens_functionOperand : Opens (functionOperand self) :=
  .node <| .bind (forward_word _) fun _ => .bind (forward_signature hself) fun _ =>
    .bind (Looks.isNext _).forward fun _ => .ite
      (.bind (hself .block).forward fun _ => .pure _)
      (.bind (forward_between (hself .expression).forward) fun _ => .pure _)

theorem opens_makingOperand : Opens (makingOperand self) :=
  .look .start fun _ => .continue (opens_nameAs _) fun _ =>
    .bind (.optional (.bind looks_sameLine.forward fun _ =>
      .bind (Looks.isNext _).forward fun _ => .ite .failure (.pure _))) fun
      | none => .pure
      | some _ => .extend (forward_typeFirstArguments hself)

theorem opens_operand : Opens (operand self) :=
  .look .peek? fun
    | none => .failure
    | some t => by
      dsimp only
      split
      · exact .leaf (.token _)
      · exact .leaf (.token _)
      · exact .ite (opens_functionOperand hself) <| .ite (opens_typeOperand hself) <|
          .ite (opens_makingOperand hself) (opens_nameAs _)
      · refine .ite (.node ?_) <| .ite (opens_typeOperand hself) .failure
        exact .bind
          (forward_between <| .firstOf_cons (hself .expression).forward <|
            .firstOf_cons (hself .type).forward .firstOf_nil)
          fun _ => .pure _
      · exact .failure

section Suffixes

variable (first : Tree) (start : Nat)

theorem continues_selected : Continues first (selected self first start) :=
  .bind (forward_mark _) fun _ => .bind (Looks.isNext _).forward fun _ => .ite
    (.bind
      (forward_between <| .bind (.optional (forward_word _)) fun
        | some _ => .pure _
        | none => .map (hself .type).forward _)
      fun
        | none => .extend (.pure _)
        | some _ => .extend (.pure _))
    (.extend (.bind (opens_wordAs _).forward fun _ => .pure _))

theorem continues_index : Continues first (index self first start) :=
  .extend <| forward_between <| .bind (.optional (hself .expression).forward) fun low =>
    .bind (.optional (forward_mark _)) fun
      | some _ => .bind (.optional (hself .expression).forward) fun _ =>
        .bind (.optional (.bind (forward_mark _) fun _ => (hself .expression).forward)) fun _ =>
          .ite (.bind .failure fun _ => .pure _) (.pure _)
      | none => match low with
        | some _ => .pure _
        | none => .failure

theorem continues_instantiated : Continues first (instantiated self first start) :=
  .bind (forward_typeArguments hself) fun _ => .bind (.optional (forward_adjoining (forward_arguments hself))) fun
    | some _ => .extend (.pure _)
    | none => .extend (.pure _)

theorem continues_suffixed : Continues first (suffixed self first start) :=
  .bind looks_sameLine.forward fun _ => .bind Looks.peek?.forward fun
    | none => .failure
    | some _ => .ite (continues_selected hself first start) <|
      .ite
        (.firstOf_cons (continues_index hself first start)
          (.firstOf_cons (continues_instantiated hself first start) .firstOf_nil)) <|
      .ite (.extend (forward_arguments hself)) <|
      .ite
        (.bind Looks.mode.forward fun _ =>
          .ite (.extend (.bind (hself .literalValue).forward fun _ => .pure _)) .failure)
        .failure

end Suffixes

theorem continues_primaryFrom (fuel : Nat) (first : Tree) (start : Nat) :
    Continues first (primaryFrom self fuel first start) := by
  induction fuel generalizing first with
  | zero => exact .pure
  | succ fuel ih =>
    have hsuffixed := continues_suffixed hself first start
    refine ⟨.bind (.optional hsuffixed.forward) fun | some next => (ih next).forward | none => .pure _, fun h => ?_⟩
    obtain ⟨r, e, hr, ht⟩ := bind_eq_some_iff.1 h
    obtain ⟨next, rfl, hnext⟩ | ⟨rfl, -⟩ := optional_eq_some_iff.1 hr
    · exact ((ih next).origin_eq ht).trans (hsuffixed.origin_eq hnext)
    · exact Continues.pure.origin_eq ht

theorem opens_primary : Opens (primary self) :=
  .look .start fun start => .continue (opens_operand hself) fun first =>
    .bind Looks.get.forward fun c => continues_primaryFrom hself c.tokens.length first start

theorem opens_unary : Opens (unary self) :=
  .look (.isNext _) fun _ => .ite
    (.node (.bind (.many (.token _)) fun _ => .bind (opens_primary hself).forward fun _ => .pure _))
    (opens_primary hself)

theorem opens_expression : Opens (expression self) :=
  .look .start fun _ => .continue (opens_unary hself) fun _ =>
    .bind (.many (.bind looks_sameLine.forward fun _ => .bind (.token _) fun _ => (opens_unary hself).forward)) fun
      | [] => .pure
      | _ :: _ => .extend (.pure _)

/-! ### Statements -/

theorem forward_range : Forward (range self) :=
  .bind (forward_word _) fun _ => .bind (hself .expression).forward fun _ => .pure _

theorem opens_simpleStatement (ranges : Bool) : Opens (simpleStatement self ranges) := by
  refine .look .start fun start => .continue_separated (hself .expression) (forward_mark _) .failure fun first _ => ?_
  refine .bind (.optional (.bind looks_sameLine.forward fun _ => .token _)) fun sign => ?_
  cases sign with
  | some sign =>
    refine .bind (Looks.isNext _).forward fun _ => .ite ?_ ?_
    · exact .bind (forward_range hself) fun _ => .extend (.pure _)
    · exact .bind (forward_expressionList hself) fun _ => .extend (.pure _)
  | none =>
    -- the failure for several operands ends the reader, so both branches go on alike
    refine .ite (.bind .failure fun _ => ?_) ?_
    all_goals
      refine .bind (.optional (.bind looks_sameLine.forward fun _ => .token _)) fun count => ?_
      cases count with
      | some _ => exact .extend (.pure _)
      | none => exact .pure

theorem forward_constSpec : Forward (constSpec self) :=
  Opens.forward <| .node <| .bind forward_names fun _ =>
    .bind (.optional (.bind looks_sameLine.forward fun _ => .bind (.optional (hself .type).forward) fun _ =>
      .bind (forward_mark _) fun _ => .bind (forward_expressionList hself) fun _ => .pure _)) fun _ => .pure _

theorem forward_varSpec : Forward (varSpec self) :=
  Opens.forward <| .node <| .bind forward_names fun _ => .bind (.optional (hself .type).forward) fun
    | none => .bind (forward_mark _) fun _ => forward_expressionList hself
    | some _ => .bind (.optional (.bind looks_sameLine.forward fun _ =>
        .bind (forward_mark _) fun _ => forward_expressionList hself)) fun _ => .pure _

theorem forward_typeSpec : Forward (typeSpec self) :=
  have hparameters : Forward (optional (typeParameters self)) := .optional (opens_typeParameters hself).forward
  .firstOf_cons
    (Opens.node (.bind (opens_nameAs _).forward fun _ => .bind hparameters fun _ =>
      .bind (opens_typed hself).forward fun _ => .pure _)).forward <|
  .firstOf_cons
    (Opens.node (.bind (opens_nameAs _).forward fun _ => .bind (opens_typed hself).forward fun _ => .pure _)).forward <|
  .firstOf_cons
    (Opens.node (.bind (opens_nameAs _).forward fun _ => .bind hparameters fun _ =>
      .bind (forward_mark _) fun _ => .bind (hself .type).forward fun _ => .pure _)).forward
    .firstOf_nil

theorem opens_of_declaration {t : Token} {p : Reader Tree} (h : declaration self t = some p) : Opens p := by
  rw [declaration] at h
  split at h
  · cases h
    exact .node (.bind (forward_word _) fun _ => forward_specs (forward_constSpec hself))
  · cases h
    exact .node (.bind (forward_word _) fun _ => forward_specs (forward_varSpec hself))
  · cases h
    exact .node (.bind (forward_word _) fun _ => forward_specs (forward_typeSpec hself))
  · cases h

theorem forward_statements (stops : Token → Bool) : Forward (statements self stops) :=
  forward_terminated <| .bind (Looks.isNext _).forward fun _ =>
    .ite (.bind .failure fun _ => (hself .statement).forward) (hself .statement).forward

theorem opens_block : Opens (block self) := .node (forward_between (forward_statements hself _))

section Clauses

variable {guard : Reader (List Tree)} (hguard : Forward guard)

include hguard

theorem forward_clause : Forward (clause self guard) :=
  have hbody (guards : List Tree) : Forward (do
      let _ ← mark ":"
      return guards ++ (← statements self startsClause)) :=
    .bind (forward_mark _) fun _ => .bind (forward_statements hself _) fun _ => .pure _
  .bind (Looks.isNext _).forward fun _ => .ite
    (.bind (forward_word _) fun _ => .bind (.within hguard) hbody)
    (.bind (forward_word _) fun _ => .bind (.pure _) hbody)

theorem forward_clauses : Forward (clauses self guard) :=
  forward_between <| .bind (.many (forward_clause hself hguard)) fun _ => .pure _

end Clauses

theorem opens_ifStatement (fuel : Nat) : Opens (ifStatement self fuel) := by
  induction fuel with
  | zero => exact .failure
  | succ fuel ih =>
    exact .node <| .bind (forward_word _) fun _ => .bind
      (.within <| .bind (opens_simpleStatement hself _).forward fun _ => .bind (.optional (forward_mark _)) fun
        | some _ => .bind (hself .expression).forward fun _ => .pure _
        | none => .pure _)
      fun _ => .bind (hself .block).forward fun _ => .bind
        (.optional <| .bind looks_sameLine.forward fun _ => .bind (forward_word _) fun _ =>
          .bind (Looks.isNext _).forward fun _ => .ite ih.forward (hself .block).forward)
        fun _ => .pure _

theorem forward_forHeader : Forward (forHeader self) :=
  .bind (Looks.isNext _).forward fun _ => .ite (.pure _) <|
    .bind (Looks.isNext _).forward fun _ => .ite (forward_range hself) <|
      .bind (.optional (opens_simpleStatement hself _).forward) fun _ => .bind (.optional (forward_mark _)) fun
        | none => .pure _
        | some _ => .bind (.optional (hself .expression).forward) fun _ => .bind (forward_mark _) fun _ =>
          .bind (.optional (opens_simpleStatement hself _).forward) fun _ => .pure _

theorem opens_forStatement : Opens (forStatement self) :=
  .node <| .bind (forward_word _) fun _ => .bind (.within (forward_forHeader hself)) fun _ =>
    .bind (hself .block).forward fun _ => .pure _

theorem opens_switchStatement : Opens (switchStatement self) :=
  .node <| .bind (forward_word _) fun _ => .bind
    (.within <| .bind (.optional (opens_simpleStatement hself _).forward) fun _ =>
      .bind (.optional (forward_mark _)) fun
      | none => .pure _
      | some _ => .bind (.optional (opens_simpleStatement hself _).forward) fun _ => .pure _)
    fun _ => .bind
      (forward_clauses hself (.ite (.separated (hself .type).forward (forward_mark _)) (forward_expressionList hself)))
      fun _ => .pure _

theorem opens_selectStatement : Opens (selectStatement self) :=
  .node <| .bind (forward_word _) fun _ =>
    forward_clauses hself (.bind (opens_simpleStatement hself _).forward fun _ => .pure _)

theorem opens_of_wordStatement {t : Token} {p : Reader Tree} (h : wordStatement self t = some p) : Opens p := by
  rw [wordStatement] at h
  split at h
  · cases h
    exact .node <| .bind (forward_word _) fun _ =>
      .bind (.optional (.bind looks_sameLine.forward fun _ => forward_expressionList hself)) fun _ => .pure _
  · cases h
    exact .node <| .bind (.token _) fun _ => .bind (hself .expression).forward fun _ => .pure _
  · cases h
    exact .node <| .bind (.token _) fun _ => .bind (hself .expression).forward fun _ => .pure _
  · cases h
    exact .look .get fun _ => opens_ifStatement hself _
  · cases h
    exact opens_forStatement hself
  · cases h
    exact opens_switchStatement hself
  · cases h
    exact opens_selectStatement hself
  · cases h
    exact .leaf (forward_word _)
  · cases h
    exact .leaf <| .bind (.token _) fun _ => .optional (.bind looks_sameLine.forward fun _ => (opens_nameAs _).forward)
  · cases h
    exact .leaf <| .bind (.token _) fun _ => .optional (.bind looks_sameLine.forward fun _ => (opens_nameAs _).forward)
  · cases h
    exact .leaf <| .bind (forward_word _) fun _ => (opens_nameAs _).forward
  · cases h

theorem opens_labelled : Opens (labelled self) :=
  .node <| .bind (.token _) fun _ => .bind (forward_mark _) fun _ =>
    .bind (.optional (hself .statement).forward) fun _ => .pure _

theorem opens_statement : Opens (statement self) :=
  .look .peek? fun
    | none => .failure
    | some t => .ite (hself .block) <| .ite (.leaf (forward_mark _)) <| .ite
      (by
        split
        · next p hp => exact opens_of_declaration hself hp
        · next p hp => exact opens_of_wordStatement hself hp
        · exact .firstOf_cons (opens_labelled hself) (.firstOf_cons (opens_simpleStatement hself _) .firstOf_nil))
      (opens_simpleStatement hself _)

/-! ### Files -/

theorem forward_body? : Forward (body? self) := .optional (.bind looks_sameLine.forward fun _ => (hself .block).forward)

theorem opens_functionDeclaration : Opens (functionDeclaration self) :=
  have hrest (receiver : Option Tree) (name : Tree) (_ : Option Tree) : Forward (do
      let signature ← signature self
      return receiver.toList ++ name :: signature ++ (← body? self).toList) :=
    .bind (forward_signature hself) fun _ => .bind (forward_body? hself) fun _ => .pure _
  have hnamed (receiver : Option Tree) : Forward (do
      let name ← wordAs .name
      let _ ← if receiver.isSome then pure none else optional (typeParameters self)
      let signature ← signature self
      return receiver.toList ++ name :: signature ++ (← body? self).toList) :=
    .bind (opens_wordAs _).forward fun name => .ite
      (.bind (.pure _) (hrest receiver name))
      (.bind (.optional (opens_typeParameters hself).forward) (hrest receiver name))
  .node <| .bind (forward_word _) fun _ => .bind (Looks.isNext _).forward fun _ => .ite
    (.bind (.map (Opens.node (.bind (hself .parameters).forward fun _ => .pure _)).forward _) hnamed)
    (.bind (.pure _) hnamed)

theorem opens_topDeclaration : Opens (topDeclaration self) :=
  .look .peek? fun
    | none => .failure
    | some _ => .ite (opens_functionDeclaration hself) <| .ite opens_importDeclaration <|
      .ite opens_packageClause .failure

theorem opens_fileItem : Opens (firstOf [
    do
      let d ← topDeclaration self
      if !(← isNext isFinish) then terminator
      return d,
    do
      if ← isNext (fun t => isWord "package" t || isWord "import" t) then failure
      let s ← self .statement
      terminator
      return s]) :=
  have hstatement : Opens (do
      let s ← self .statement
      terminator
      return s) :=
    .continue (hself .statement) fun _ => .bind forward_terminator fun _ => .pure
  .firstOf_cons
    (.continue (opens_topDeclaration hself) fun _ => .bind (Looks.isNext _).forward fun _ =>
      .ite (.bind forward_terminator fun _ => .pure) .pure)
    (.firstOf_cons (.look (.isNext _) fun _ => .ite (.look .failure fun _ => hstatement) hstatement) .firstOf_nil)

omit hself in
theorem opens_read (depth : Nat) (rule : Rule) : Opens (read depth rule) := by
  induction depth generalizing rule with
  | zero => exact .failure
  | succ depth ih =>
    cases rule with
    | type => exact opens_type ih
    | expression => exact opens_expression ih
    | parameters => exact opens_parameters ih
    | literalValue => exact opens_literalValue ih
    | block => exact opens_block ih
    | statement => exact opens_statement ih

end Demarcation.Go
