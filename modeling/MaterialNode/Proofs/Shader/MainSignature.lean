import MaterialNode.Proofs.Shader.HeaderItem

/-!
# The Signature of a Shader

The stage parameters of a shader stand in the signature of its function `main`, one on each line. A
comma ends every parameter but the last, which a parenthesis ends. An output is read up to the last
character of its line, whichever that is, but an input is read up to a comma. A signature is
therefore read back exactly when its last parameter is an output: an input in that place keeps the
parenthesis in its semantic (`readings_signatureLines_iff`).

## Main definitions

* `SignatureParameter`: a stage parameter as it is written, without what ends its line.
* `signatureLines`: the lines of a signature.
* `Declaration.readings`: what is read at each of some lines.
-/

namespace MaterialNode

open Text

/-! ## Readings -/

namespace Declaration

/-- What is read at each of some lines, given the lines that follow the last of them. -/
def readings : List Text → List Text → List (Option Declaration)
  | [], _ => []
  | line :: rest, following => ofLine? line (rest ++ following) :: readings rest following

theorem readings_append (first second following : List Text) :
    readings (first ++ second) following
      = readings first (second ++ following) ++ readings second following := by
  induction first with
  | nil => rfl
  | cons line first ih =>
    rw [List.cons_append, readings, readings, ih, List.append_assoc, List.cons_append]

end Declaration

/-! ## Parameters -/

/-- A stage parameter of a signature as it is written. -/
structure SignatureParameter where
  /-- Whether the parameter is an input or an output. -/
  kind : ParameterKind
  /-- The type of the parameter. -/
  elementType : Text
  /-- The register number in the name of the parameter. -/
  register : Nat
  /-- The semantic tag. -/
  semantic : Text
  deriving DecidableEq

namespace SignatureParameter

variable {parameter : SignatureParameter} {closing : Char}

/-- The line of a parameter, with the character that ends it. -/
def line (parameter : SignatureParameter) (closing : Char) : Text :=
  parameterLine parameter.kind parameter.elementType parameter.register parameter.semantic closing

/-- The declaration of a parameter with a semantic in place of its own. -/
def declarationWith (parameter : SignatureParameter) (semantic : Text) : Declaration :=
  parameter.kind.declaration ⟨parameter.kind.letter :: ofNat parameter.register,
    parameter.elementType, parameter.register, semantic⟩

/-- The declaration that a parameter stands for. -/
def declaration (parameter : SignatureParameter) : Declaration :=
  parameter.declarationWith parameter.semantic

/-- The type and the semantic of a parameter are identifiers that hold no keyword of another kind of
declaration and do not start with the letter of an input, and its register number is in range. -/
structure IsPlain (parameter : SignatureParameter) : Prop where
  /-- The type is an identifier. -/
  type_identifier : IsIdentifier parameter.elementType
  /-- The type holds no keyword. -/
  type_keyword : HasNoKeyword parameter.elementType
  /-- The type does not start with the letter of an input. -/
  type_start : parameter.elementType.head? ≠ some 'v'
  /-- The semantic is an identifier. -/
  semantic_identifier : IsIdentifier parameter.semantic
  /-- The semantic holds no keyword. -/
  semantic_keyword : HasNoKeyword parameter.semantic
  /-- The semantic does not start with the letter of an input. -/
  semantic_start : parameter.semantic.head? ≠ some 'v'
  /-- The register number is in range. -/
  register_lt : parameter.register < registerBound

instance (parameter : SignatureParameter) : Decidable parameter.IsPlain :=
  decidable_of_iff (IsIdentifier parameter.elementType ∧ HasNoKeyword parameter.elementType
      ∧ parameter.elementType.head? ≠ some 'v' ∧ IsIdentifier parameter.semantic
      ∧ HasNoKeyword parameter.semantic ∧ parameter.semantic.head? ≠ some 'v'
      ∧ parameter.register < registerBound)
    ⟨fun h => ⟨h.1, h.2.1, h.2.2.1, h.2.2.2.1, h.2.2.2.2.1, h.2.2.2.2.2.1, h.2.2.2.2.2.2⟩,
      fun h => ⟨h.type_identifier, h.type_keyword, h.type_start, h.semantic_identifier,
        h.semantic_keyword, h.semantic_start, h.register_lt⟩⟩

/-- A parameter is read back whatever ends its line, unless it is an input without a comma. -/
theorem ofLine?_line (h : parameter.IsPlain) (hclosing : EndsParameter closing)
    (hcomma : parameter.kind = .input → closing = ',') (following : List Text) :
    Declaration.ofLine? (parameter.line closing) following = some parameter.declaration :=
  HeaderItem.ofLine?_parameterLine
    ⟨h.type_identifier, h.semantic_identifier, h.register_lt, hclosing, hcomma⟩
    ⟨h.type_keyword, h.semantic_keyword, h.type_start, fun _ => h.semantic_start⟩ following

/-- An input that a parenthesis ends is read with the parenthesis in its semantic. -/
theorem ofLine?_line_parenthesis (h : parameter.IsPlain) (hkind : parameter.kind = .input)
    (following : List Text) : Declaration.ofLine? (parameter.line ')') following
      = some (parameter.declarationWith (parameter.semantic ++ [')'])) := by
  have hline : DeclarationKind.ofLine? (parameter.line ')') = some parameter.kind.lineKind :=
    (kind_parameterLine_iff h.type_identifier h.semantic_identifier (.inr rfl)).2
      ⟨⟨h.type_keyword, h.semantic_keyword⟩, fun _ => ⟨h.type_start, h.semantic_start⟩⟩
  rw [Declaration.ofLine?_of_kind hline, declarationWith, line, hkind, ParameterKind.lineKind,
    DeclarationKind.read?, input?_parameterLine_parenthesis h.type_identifier h.type_start
      h.semantic_identifier h.register_lt]
  rfl

/-- The parenthesis is no part of the semantic of a parameter. -/
theorem declarationWith_parenthesis_ne (parameter : SignatureParameter) :
    parameter.declarationWith (parameter.semantic ++ [')']) ≠ parameter.declaration := by
  intro heq
  have hsemantic : parameter.semantic ++ [')'] = parameter.semantic := by
    rw [declaration, declarationWith, declarationWith] at heq
    cases hkind : parameter.kind with
    | input | output =>
      rw [hkind] at heq
      simp [ParameterKind.declaration] at heq
  exact absurd hsemantic (by simp)

end SignatureParameter

/-! ## Signatures -/

/-- The lines of a signature: a comma ends each parameter but the last, which a parenthesis ends. -/
def signatureLines : List SignatureParameter → List Text
  | [] => []
  | [last] => [last.line ')']
  | parameter :: next :: parameters => parameter.line ',' :: signatureLines (next :: parameters)

variable {parameters front : List SignatureParameter} {last : SignatureParameter}

theorem signatureLines_concat (front : List SignatureParameter) (last : SignatureParameter) :
    signatureLines (front ++ [last]) = front.map (·.line ',') ++ [last.line ')'] := by
  induction front with
  | nil => rfl
  | cons parameter front ih =>
    cases front with
    | nil => rfl
    | cons next front =>
      rw [List.cons_append, List.cons_append, signatureLines, ← List.cons_append, ih]
      rfl

/-- Parameters that commas end are read back. -/
theorem readings_commaLines (h : ∀ parameter ∈ parameters, parameter.IsPlain)
    (following : List Text) :
    Declaration.readings (parameters.map (·.line ',')) following
      = parameters.map fun parameter => some parameter.declaration := by
  induction parameters with
  | nil => rfl
  | cons parameter parameters ih =>
    obtain ⟨hparameter, hparameters⟩ := List.forall_mem_cons.1 h
    rw [List.map_cons, Declaration.readings, ih hparameters,
      SignatureParameter.ofLine?_line hparameter (.inl rfl) (fun _ => rfl), List.map_cons]

/-- All parameters of a signature but the last are read back. -/
theorem readings_signatureLines_concat (h : ∀ parameter ∈ front, parameter.IsPlain)
    (last : SignatureParameter) (following : List Text) :
    Declaration.readings (signatureLines (front ++ [last])) following
      = (front.map fun parameter => some parameter.declaration)
        ++ [Declaration.ofLine? (last.line ')') following] := by
  rw [signatureLines_concat, Declaration.readings_append, readings_commaLines h]
  rfl

/-- A signature is read back, every parameter with its name, type, register number and semantic,
exactly when its last parameter is no input. If it is one, then this input, and no other parameter,
is read with the parenthesis at the end of its semantic. -/
theorem readings_signatureLines_iff (h : ∀ parameter ∈ parameters, parameter.IsPlain)
    (following : List Text) :
    (Declaration.readings (signatureLines parameters) following
          = parameters.map (fun parameter => some parameter.declaration)
        ↔ parameters.getLast?.map SignatureParameter.kind ≠ some .input)
      ∧ ∀ front last, parameters = front ++ [last] → last.kind = .input →
          Declaration.readings (signatureLines parameters) following
            = (front.map fun parameter => some parameter.declaration)
              ++ [some (last.declarationWith (last.semantic ++ ")"))] := by
  have hmisread : ∀ front last, parameters = front ++ [last] → last.kind = .input →
      Declaration.readings (signatureLines parameters) following
        = (front.map fun parameter => some parameter.declaration)
          ++ [some (last.declarationWith (last.semantic ++ [')']))] := by
    rintro front last rfl hkind
    rw [List.forall_mem_append] at h
    rw [readings_signatureLines_concat h.1,
      SignatureParameter.ofLine?_line_parenthesis (h.2 last (by simp)) hkind]
  refine ⟨?_, hmisread⟩
  -- All lines but the last are read back, so the last one decides.
  rcases List.eq_nil_or_concat parameters with rfl | ⟨front, last, rfl⟩
  · simp [signatureLines, Declaration.readings]
  rw [List.concat_eq_append] at h hmisread ⊢
  rw [List.getLast?_concat, Option.map_some, Ne, Option.some_inj]
  constructor
  · -- An input in the last place would be read with the parenthesis.
    intro hread hkind
    rw [hmisread front last rfl hkind, List.map_append] at hread
    have hlast := List.append_cancel_left hread
    rw [List.map_singleton, List.singleton_inj, Option.some_inj] at hlast
    exact last.declarationWith_parenthesis_ne hlast
  · intro hkind
    rw [List.forall_mem_append] at h
    rw [readings_signatureLines_concat h.1, SignatureParameter.ofLine?_line (h.2 last (by simp))
      (.inr rfl) (fun hinput => absurd hinput hkind), List.map_append]
    rfl

/-- A signature of inputs and outputs of which the last is an output. -/
def typicalSignature : List SignatureParameter := [
  ⟨.output, "float4", 0, "SV_Target0"⟩,
  ⟨.input, "float4", 0, "TEXCOORD0"⟩,
  ⟨.input, "uint", 12, "TEXCOORD12"⟩,
  ⟨.output, "float3", 1, "SV_Target1"⟩]

/-- A signature that ends in an output is read back. -/
theorem readings_typicalSignature :
    Declaration.readings (signatureLines typicalSignature) ["\x7b"]
      = typicalSignature.map fun parameter => some parameter.declaration := by
  have hplain : ∀ parameter ∈ typicalSignature, parameter.IsPlain := by decide +kernel
  exact (readings_signatureLines_iff hplain ["\x7b"]).1.2 (by decide)

/-- Not every signature is read back: the semantic of a single input keeps the parenthesis. -/
theorem not_forall_readings_signatureLines :
    ¬ ∀ parameters : List SignatureParameter, (∀ parameter ∈ parameters, parameter.IsPlain) →
      ∀ following, Declaration.readings (signatureLines parameters) following
        = parameters.map fun parameter => some parameter.declaration := by
  intro hall
  have hread := hall [⟨.input, "float4", 0, "SV_Position0"⟩] (by decide +kernel) []
  revert hread
  decide +kernel

end MaterialNode
