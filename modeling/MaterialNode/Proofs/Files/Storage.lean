import MaterialNode.Proofs.Files.Changes

/-!
# Writing on Storage

A write goes one of four ways. If its path leads to no place for a file, or storage refuses to open
the file, the tree stays as it is. If storage breaks the write off, the file holds the first bytes
of the text, and otherwise it holds the text. Storage that fails no write leaves the first way and
the last.

## Main definitions

* `FileTree.WriteCourse`: the ways that a write can go.

## Main results

* `Content.ofStart_append`: what a file holds that took the first characters of a text.
* `FileTree.writeCourse`: each write goes one of these ways.
* `FileTree.writeText_of_writeOn`: a write that works leaves the same tree on any storage.
* `FileTree.writeOn_of_error`, `FileTree.writeOn_of_writeText`: the writes on storage that fails none.
-/

namespace MaterialNode

/-! ## The Start of a Text -/

theorem length_flatMap_utf8EncodeChar (text : Text) :
    (text.flatMap String.utf8EncodeChar).length = Text.byteLength text := by
  induction text with
  | nil => rfl
  | cons c text ih => simp [Text.byteLength, ih]

namespace Content

/-- The bytes of a text make up the text. -/
theorem ofBytes_flatMap (text : Text) :
    ofBytes (text.flatMap String.utf8EncodeChar) = .text text := by
  have hbytes : (⟨(text.flatMap String.utf8EncodeChar).toArray⟩ : ByteArray)
      = (String.ofList text).toByteArray := by
    rw [String.toByteArray_ofList, List.utf8Encode]
    exact ByteArray.ext List.data_toByteArray.symm
  have hdecoded : String.fromUTF8? (String.ofList text).toByteArray = some (String.ofList text) :=
    dif_pos (String.ofList text).isValidUTF8
  rw [ofBytes, hbytes, hdecoded]
  exact congrArg Content.text String.toList_ofList

/-- A file that took the bytes of some first characters holds these. -/
theorem ofStart_append (start rest : Text) :
    ofStart (Text.byteLength start) (start ++ rest) = .text start := by
  rw [ofStart, List.flatMap_append, ← length_flatMap_utf8EncodeChar, List.take_left,
    ofBytes_flatMap]

example : ofStart 2 "né".toList = .bytes [0x6E, 0xC3] := by decide +kernel

end Content

/-! ## The Course of a Write -/

namespace FileTree

variable {tree other : FileTree} {storage : Storage} {path text : Text} {cause : FileError}

/-- The ways that a write can go. -/
inductive WriteCourse (tree : FileTree) (storage : Storage) (path text : Text) : Prop where
  /-- The path leads to no place for a file. -/
  | barred (cause : FileError) (hwritable : tree.writable path = .error cause)
      (hwrite : tree.writeOn storage path text = (.error (.path cause), tree))
  /-- Storage does not open the file. -/
  | refused (wording : Text)
      (hwrite : tree.writeOn storage path text = (.error (.storage (.refused wording)), tree))
  /-- Storage takes only the first bytes of the text. -/
  | brokenOff (bytes : Nat) (wording : Text) (withStart : FileTree)
      (hstart : tree.writeContent path (.ofStart bytes text) = .ok withStart)
      (hwrite : tree.writeOn storage path text
        = (.error (.storage (.brokenOff bytes wording)), withStart))
  /-- The text is written. -/
  | done (withText : FileTree) (htext : tree.writeText path text = .ok withText)
      (hwrite : tree.writeOn storage path text = (.ok (), withText))

theorem writeContent_of_ok {location : Location} (h : tree.writable path = .ok location)
    (content : Content) :
    tree.writeContent path content = .ok (tree.put location (.file content)) := by
  rw [writeContent, h]
  rfl

theorem writeContent_of_error (h : tree.writable path = .error cause) (content : Content) :
    tree.writeContent path content = .error cause := by
  rw [writeContent, h]
  rfl

/-- A path that leads to no place for a file fails a write on any storage. -/
theorem writeOn_of_error (h : tree.writable path = .error cause) :
    tree.writeOn storage path text = (.error (.path cause), tree) := by
  simp only [writeOn, h]

/-- Each write goes one of these ways. -/
theorem writeCourse (tree : FileTree) (storage : Storage) (path text : Text) :
    tree.WriteCourse storage path text := by
  cases hwritable : tree.writable path with
  | error cause => exact .barred cause hwritable (writeOn_of_error hwritable)
  | ok location =>
    have hcontent := writeContent_of_ok hwritable
    -- The file can be opened, and the rest is up to storage.
    cases hfault : storage.fault? tree path text with
    | none => exact .done _ (hcontent _) (by simp only [writeOn, hwritable, hfault])
    | some fault =>
      cases fault with
      | refused wording => exact .refused wording (by simp only [writeOn, hwritable, hfault])
      | brokenOff bytes wording =>
        exact .brokenOff bytes wording _ (hcontent _)
          (by simp only [writeOn, hwritable, hfault])

/-- Only such a path is blamed for the failure of a write. -/
theorem writable_of_writeOn {after : FileTree}
    (h : tree.writeOn storage path text = (.error (.path cause), after)) :
    tree.writable path = .error cause := by
  cases tree.writeCourse storage path text with
  | barred cause' hwritable hwrite =>
    cases h.symm.trans hwrite
    exact hwritable
  | refused _ hwrite => cases h.symm.trans hwrite
  | brokenOff _ _ _ _ hwrite => cases h.symm.trans hwrite
  | done _ _ hwrite => cases h.symm.trans hwrite

/-- A write that works leaves the same tree on any storage. -/
theorem writeText_of_writeOn (h : tree.writeOn storage path text = (.ok (), other)) :
    tree.writeText path text = .ok other := by
  cases tree.writeCourse storage path text with
  | barred _ _ hwrite => cases h.symm.trans hwrite
  | refused _ hwrite => cases h.symm.trans hwrite
  | brokenOff _ _ _ _ hwrite => cases h.symm.trans hwrite
  | done withText htext hwrite =>
    cases h.symm.trans hwrite
    exact htext

/-- What can be written is written on storage that fails no write. -/
theorem writeOn_of_writeText (h : tree.writeText path text = .ok other) :
    tree.writeOn .ample path text = (.ok (), other) := by
  cases hwritable : tree.writable path with
  | error cause => cases h.symm.trans (writeContent_of_error hwritable (.text text))
  | ok location =>
    cases h.symm.trans (writeContent_of_ok hwritable (.text text))
    simp only [writeOn, hwritable, Storage.ample]

end FileTree

end MaterialNode
