import MaterialNode.Metadata.Material
import MaterialNode.Number.SixPlaces
import MaterialNode.Shader.Declaration

/-!
# Constant Buffer Blocks

Every constant buffer becomes a static array with one row per element. The rows are the
sample rows stored for the buffer's element count, as far as they go, and rows of ones
after them.
-/

namespace MaterialNode

/-- The row of an element without sample data. -/
def onesRow : Text := "float4(1, 1, 1, 1),"

/-- A sample row as an initialiser. -/
def SampleRow.write (row : SampleRow) : Text :=
  "float4(" ++ row.x.writeSixPlaces ++ ", " ++ row.y.writeSixPlaces ++ ", "
    ++ row.z.writeSixPlaces ++ ", " ++ row.w.writeSixPlaces ++ "),"

namespace ConstantBuffer

/-- The sample rows stored for a buffer. -/
def sampleRows (buffer : ConstantBuffer) (samples : Option SampleStore) : List SampleRow :=
  ((samples.bind fun store => store.get? buffer.count).getD [])

/-- The first line of a buffer's block. -/
def header (buffer : ConstantBuffer) : Text :=
  "static " ++ buffer.elementType ++ " " ++ buffer.name ++ "[" ++ Text.ofNat buffer.count
    ++ "] = "

/-- The lines of a buffer's block, with an empty line at the end. -/
def block (buffer : ConstantBuffer) (samples : Option SampleStore) : List Text :=
  let rows := buffer.sampleRows samples
  buffer.header :: "\x7b"
    :: ((rows.take buffer.count).map SampleRow.write
      ++ List.replicate (buffer.count - rows.length) onesRow
      ++ (["\x7d;", ""] : List Text))

/-- The blocks of all buffers in order. -/
def blocks (buffers : List ConstantBuffer) (samples : Option SampleStore) : List Text :=
  buffers.flatMap fun buffer => buffer.block samples

/-- A block has a line per element and four more. -/
theorem length_block (buffer : ConstantBuffer) (samples : Option SampleStore) :
    (buffer.block samples).length = buffer.count + 4 := by
  simp [block]
  omega

end ConstantBuffer
end MaterialNode
