import MaterialNode.Shader.Header

/-!
# The Kind of a Line

A line is tried as a texture, a sampler, a constant buffer, an input and an output, in this
order, and the first kind that recognises it decides: if that kind cannot read the line, no
other kind does.
-/

namespace MaterialNode

/-- The kind of a line is that of the first test that it passes. -/
theorem DeclarationKind.ofLine?_eq (line : Text) :
    DeclarationKind.ofLine? line =
      if ShaderLine.isTexture line then some .texture
      else if ShaderLine.isSampler line then some .sampler
      else if ShaderLine.isConstantBuffer line then some .constantBuffer
      else if ShaderLine.isInput line then some .input
      else if ShaderLine.isOutput line then some .output
      else none := by
  simp only [DeclarationKind.ofLine?, DeclarationKind.all, List.find?_cons,
    DeclarationKind.recognises, List.find?_nil]
  repeat' split
  all_goals simp_all

/-- A line is recognised as what it is taken for. -/
theorem DeclarationKind.recognises_of_ofLine? {kind : DeclarationKind} {line : Text}
    (h : DeclarationKind.ofLine? line = some kind) : kind.recognises line = true := by
  simpa using List.find?_some h

namespace Declaration

/-- The kind of a declaration. -/
def kind : Declaration → DeclarationKind
  | .texture _ => .texture
  | .sampler _ => .sampler
  | .constantBuffer _ => .constantBuffer
  | .input _ => .input
  | .output _ => .output

/-- What is read as a kind is a declaration of that kind. -/
theorem kind_of_read? {kind : DeclarationKind} {line : Text} {following : List Text}
    {declaration : Declaration} (h : kind.read? line following = some declaration) :
    declaration.kind = kind := by
  cases kind <;>
    (simp only [DeclarationKind.read?, Option.map_eq_some_iff] at h
     obtain ⟨_, -, rfl⟩ := h
     rfl)

/-- A line that declares something has the kind of what it declares. -/
theorem kind_of_ofLine? {line : Text} {following : List Text} {declaration : Declaration}
    (h : Declaration.ofLine? line following = some declaration) :
    DeclarationKind.ofLine? line = some declaration.kind := by
  obtain ⟨kind, hkind, hread⟩ := Option.bind_eq_some_iff.1 h
  rw [hkind, kind_of_read? hread]

/-- A line of a known kind declares what that kind reads. -/
theorem ofLine?_of_kind {kind : DeclarationKind} {line : Text}
    (h : DeclarationKind.ofLine? line = some kind) (following : List Text) :
    Declaration.ofLine? line following = kind.read? line following := by
  rw [Declaration.ofLine?, h, Option.bind_some]

end Declaration

end MaterialNode
