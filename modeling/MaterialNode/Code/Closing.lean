import MaterialNode.Code.EntryPoint
import MaterialNode.Text.Lines

/-!
# The Closing

The conversion template ends the body of `main`: it maps the shader's outputs to material
attributes. After it the wrapper is closed, and the code of a pixel shader calls into it.
-/

namespace MaterialNode.Closing

/-- The margin of template lines. -/
def indent : Text := "  "

/-- A texture as an argument that others follow. -/
def textureArgument (texture : Texture) : Text := texture.name ++ ","

/-- The call of a pixel entry point with the textures and the screen coordinate. -/
def callLine (textures : List Texture) : Text :=
  "return s.main(" ++ textures.flatMap textureArgument ++ EntryPoint.coordinate ++ ");"

/-- The lines after the body: the template, the closing braces and the call. -/
def lines (stage : Stage) (declarations : Declarations) (template : List Text) : List Text :=
  template.map (indent ++ ·) ++ (["\x7d", "\x7d;"] : List Text)
    ++ (match stage with
      | .pixel => ["shader s;", callLine declarations.textures]
      | .vertex => [])

end MaterialNode.Closing
