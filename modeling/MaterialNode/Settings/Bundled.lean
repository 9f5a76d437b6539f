import MaterialNode.Settings
import MaterialNode.Text.Lines

/-!
# The Bundled Template

The conversion template that is used where no other is installed or named. It turns the
render targets of a deferred shader into material attributes.
-/

namespace MaterialNode.Settings

/-- The lines of the bundled conversion template. -/
def bundledLines : List Text :=
  ["// Render target outputs to material attributes.",
    "// o0: base colour (rgb) and alpha test value (a)",
    "// o1: world normal encoded in [0, 1] (xyz)",
    "// o2: metallic (x), smoothness (y), emissive/occlusion packing (z)",
    "output.BaseColor = o0.xyz;",
    "output.Metallic = saturate(o2.x);",
    "output.Specular = 0.5;",
    "output.Roughness = 1 - saturate(o2.y);",
    "output.Normal = normalize(o1.xyz * 2 - 1);",
    "output.AmbientOcclusion = saturate(o2.z * 2);",
    "float emission = saturate(o2.z - 0.5) * 2;",
    "output.EmissiveColor = o0.xyz * emission;",
    "output.Opacity = 1;",
    "return output;"]

/-- The text of the bundled conversion template. -/
def bundledTemplate : Text := Text.joinLines bundledLines

/-- The file of the bundled conversion template in the bundled resources. -/
def bundledFile : Text := default.templateFile

end MaterialNode.Settings
