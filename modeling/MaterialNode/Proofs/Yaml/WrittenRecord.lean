import MaterialNode.Proofs.Yaml.WrittenValue

/-!
# Records

A record that is printed with one key and its value after the other is read back as a mapping with
these keys and values. The reader finds a key by the colon after it and puts in the tokens that
belong before it.

## Main definitions

* `WrittenEntry`: a key with a value that is read as a scalar.
* `Scanner.AtLine`: a scanner is about to read a line of a record.

## Main results

* `Scanner.exists_run?_entry`: one key with its value is cut into tokens.
* `Token.ofText?_entries`: a record is cut into tokens.
* `Node.ofText?_entries`: a record is read back.
-/

namespace MaterialNode.Yaml

/-- A key with a value as it is printed, and what the value is read as. -/
structure WrittenEntry where
  /-- The key. -/
  key : Text
  /-- The value as it is printed. -/
  written : Text
  /-- Whether the value is printed plainly. -/
  plain : Bool
  /-- The text of the value. -/
  text : Text

namespace WrittenEntry

/-- Whether the key is spelled plainly and the value is read as its text. -/
structure IsReadable (entry : WrittenEntry) : Prop where
  /-- The key is not empty. -/
  key_ne_nil : entry.key ≠ []
  /-- The key holds no marks. -/
  isKeyChar : ∀ c ∈ entry.key, isKeyChar c = true
  /-- The key is not too long to be recognised by its colon. -/
  byteLength_le : entry.key.byteLength ≤ Scanner.maxKeyLength
  /-- The value is read as a scalar. -/
  isScalar : IsScalar entry.plain entry.text entry.written

/-- The lines of an entry. -/
def lines (entry : WrittenEntry) : Text := writeEntry entry.key entry.written

/-- The tokens of an entry. -/
def tokens (entry : WrittenEntry) : List Token :=
  [.key, .scalar true entry.key, .value, .scalar entry.plain entry.text]

theorem lines_append (entry : WrittenEntry) (tail : Text) : entry.lines ++ tail
    = entry.key ++ ':' :: ' ' :: (entry.written ++ tail) := by
  simp [lines, writeEntry]

end WrittenEntry

namespace Scanner

variable {scanner : Scanner} {columns : List Nat} {rest tail : Text}

/-! ## One Token after Another -/

/-- Nothing is passed over where a token starts. -/
theorem skipBlanks_of_startsToken (h : StartsToken scanner.cursor.rest) (fuel : Nat) :
    scanner.skipBlanks fuel = scanner := by
  obtain ⟨c, rest, hrest, hspace, htab, hmark, hcomment, hbreak⟩ := h
  cases fuel with
  | zero => rfl
  | succ fuel =>
    rw [skipBlanks, hrest]
    simp [hspace, htab, hmark, hcomment, hbreak]

theorem skipBlanks_of_nil (h : scanner.cursor.rest = []) (fuel : Nat) :
    scanner.skipBlanks fuel = scanner := by
  cases fuel with
  | zero => rfl
  | succ fuel => rw [skipBlanks, h]

theorem startsToken_of_isKeyChar {c : Char} (h : isKeyChar c = true) (rest : Text) :
    StartsToken (c :: rest) :=
  ⟨c, rest, rfl, ne_of_isKeyChar h (by decide), ne_of_isKeyChar h (by decide),
    ne_of_isKeyChar h (by decide), ne_of_isKeyChar h (by decide), isBreak_of_isKeyChar h⟩

theorem skipBlanks_of_startsLine (h : StartsLine scanner.cursor.rest) (fuel : Nat) :
    scanner.skipBlanks fuel = scanner := by
  cases hrest : scanner.cursor.rest with
  | nil => exact skipBlanks_of_nil hrest fuel
  | cons c rest =>
    refine skipBlanks_of_startsToken ?_ fuel
    rw [hrest]
    exact startsToken_of_isKeyChar (h c (by rw [hrest]; rfl)) rest

/-- A collection in the first column is not closed by a token. -/
theorem closeBlocks_of_columns (h : scanner.columns = [] ∨ scanner.columns = [0]) (column : Nat) :
    scanner.closeBlocks (fun outer => decide (outer ≤ column)) = scanner := by
  obtain ⟨cursor, tokens, columns, keyStarts, keyAllowed⟩ := scanner
  unfold closeBlocks
  split
  · rfl
  · rcases h with rfl | rfl <;> simp

/-- A step of the scanner in a record. -/
theorem run?_succ {blank next : Scanner}
    (hblank : scanner.skipBlanks (fuelAt scanner.cursor) = blank)
    (hstale : blank.forgetStale? = some blank) (hstarts : StartsToken blank.cursor.rest)
    (hcolumns : blank.columns = [] ∨ blank.columns = [0]) (htoken : blank.token? = some next)
    (fuel : Nat) : run? (fuel + 1) scanner = run? fuel next := by
  obtain ⟨c, rest, hrest, -⟩ := hstarts
  rw [run?, hblank, hstale]
  have hempty : blank.cursor.rest.isEmpty = false := by rw [hrest]; rfl
  show (if blank.cursor.rest.isEmpty then _ else _) = _
  rw [if_neg (by simp [hempty])]
  simp only [closeBlocks_of_columns hcolumns, htoken]
  rfl

/-! ## Keys and Values -/

/-- Whether a scanner is about to read a line of a record, after given tokens. -/
def AtLine (scanner : Scanner) (tokens : List Token) (columns : List Nat) (rest : Text) : Prop :=
  ∃ cursor : Cursor,
    scanner.skipBlanks (fuelAt scanner.cursor) = ⟨cursor, tokens, columns, [none], true⟩
      ∧ cursor.rest = rest ∧ cursor.column = 0

/-- The token before the first entry of a record. -/
def opening (columns : List Nat) : List Token := if columns = [] then [.blockMapping] else []

/-- A key is read, and where it began is remembered. -/
theorem token?_of_key {cursor : Cursor} (tokens : List Token) {key : Text} (hne : key ≠ [])
    (hkey : ∀ c ∈ key, isKeyChar c = true) (hrest : cursor.rest = key ++ ':' :: ' ' :: rest)
    (columns : List Nat) : token? ⟨cursor, tokens, columns, [none], true⟩
      = some ⟨cursor.skip key.length, tokens ++ [.scalar true key], columns,
          [some ⟨tokens.length, cursor, columns.head? == some cursor.column⟩], false⟩ := by
  obtain ⟨c, key, rfl⟩ := List.exists_cons_of_ne_nil hne
  have hc : isKeyChar c = true := hkey c List.mem_cons_self
  -- No character of a key opens a structure.
  have hopens : ∀ alone, opensStructure c alone = false := by
    intro alone
    have hmarks : ("#,[]\x7b\x7d&*!|>'\"%@\x60".toList ++ "?:-".toList).all
        (fun d => !isKeyChar d) = true := by decide
    have hnot : c ∉ "#,[]\x7b\x7d&*!|>'\"%@\x60".toList ++ "?:-".toList := fun hmem => by
      have hmark := List.all_eq_true.1 hmarks c hmem
      rw [hc] at hmark
      cases hmark
    rw [List.mem_append, not_or] at hnot
    simp only [opensStructure, List.contains_eq_mem, hnot.1, hnot.2, decide_false, Bool.false_and,
      Bool.or_false]
  rw [token?_of_not_opensStructure hrest rfl (hopens _) (isSpacing_of_isKeyChar hc)
    (Cursor.atAnyMarker_of_isKeyChar hrest hc)]
  have hfuel : (c :: key).length < cursor.rest.length + 1 := by
    rw [hrest, List.length_append]
    omega
  have hread := fun indent => plainRest?_key indent hkey hrest hfuel
  show (plainRest? false (contentColumn _) (cursor.rest.length + 1) .none cursor).bind _ = _
  rw [hread]
  rfl

/-- At the colon the tokens before a key are put in. -/
theorem token?_of_colon {place cursor : Cursor} (tokens : List Token) (scalar : Token)
    (required : Bool) (hrest : cursor.rest = ':' :: ' ' :: rest) (hplace : place.column = 0)
    (hcolumn : 0 < cursor.column) (hcolumns : columns = [] ∨ columns = [0]) :
    token? ⟨cursor, tokens ++ [scalar], columns, [some ⟨tokens.length, place, required⟩], false⟩
      = some ⟨cursor.next, tokens ++ (opening columns ++ [.key, scalar, .value]), [0], [none],
          false⟩ := by
  -- A colon before a space marks a value.
  have hmark : token?
      ⟨cursor, tokens ++ [scalar], columns, [some ⟨tokens.length, place, required⟩], false⟩
      = valueMark?
        ⟨cursor, tokens ++ [scalar], columns, [some ⟨tokens.length, place, required⟩], false⟩ := by
    unfold token?
    simp [hrest, Cursor.atMarker_of_pos hcolumn, wordEnds, isSpacing]
  rw [hmark]
  rcases hcolumns with rfl | rfl <;>
    simp [valueMark?, insertToken, openBlock, inFlow, contentColumn, emitMark, emit, moveTo,
      allowKey, opening, hplace, Cursor.next]

theorem forgetStale?_of_none (cursor : Cursor) (tokens : List Token) (columns : List Nat)
    (keyAllowed : Bool) : forgetStale? ⟨cursor, tokens, columns, [none], keyAllowed⟩
      = some ⟨cursor, tokens, columns, [none], keyAllowed⟩ := rfl

/-- A key is not forgotten while its end is read. -/
theorem forgetStale?_of_key {place : Cursor} {key : Text} (hrest : place.rest = key ++ rest)
    (hlength : key.byteLength ≤ maxKeyLength) (tokens : List Token) (columns : List Nat)
    (tokensBefore : Nat) (required keyAllowed : Bool) :
    forgetStale? ⟨place.skip key.length, tokens, columns, [some ⟨tokensBefore, place, required⟩],
        keyAllowed⟩
      = some ⟨place.skip key.length, tokens, columns, [some ⟨tokensBefore, place, required⟩],
          keyAllowed⟩ := by
  have hfresh : isStale (place.skip key.length) ⟨tokensBefore, place, required⟩ = false := by
    simp [isStale, Cursor.skip, hrest, hlength]
  simp [forgetStale?, hfresh]

/-- After a value the scanner is about to read the next line. -/
theorem atLine_of_endsLine {cursor : Cursor} {keyAllowed : Bool} (htail : StartsLine tail)
    (h : EndsLine cursor keyAllowed tail) (tokens : List Token) :
    AtLine ⟨cursor, tokens, columns, [none], keyAllowed⟩ tokens columns tail := by
  rcases h with ⟨hrest, hcolumn, rfl⟩ | hrest
  · exact ⟨cursor, skipBlanks_of_startsLine (by rwa [hrest]) _, hrest, hcolumn⟩
  · have hnext : cursor.nextLine.rest = tail := Cursor.rest_nextLine hrest (by decide)
    refine ⟨cursor.nextLine, ?_, hnext, rfl⟩
    have hline :
        StartsLine (Scanner.mk cursor.nextLine tokens columns [none] true).cursor.rest := by
      rwa [hnext]
    rw [fuelAt, skipBlanks, hrest]
    simpa [isBreak, moveTo, allowKey, inFlow] using skipBlanks_of_startsLine hline _

/-- A value is read after the space behind its colon. -/
theorem exists_run?_value {entry : WrittenEntry} (hentry : entry.IsReadable)
    (htail : StartsLine tail) {cursor : Cursor}
    (hrest : cursor.rest = ' ' :: (entry.written ++ tail))
    (tokens : List Token) : ∃ next : Scanner,
      (∀ fuel, run? (fuel + 1) ⟨cursor, tokens, [0], [none], false⟩ = run? fuel next)
        ∧ next.AtLine (tokens ++ [.scalar entry.plain entry.text]) [0] tail := by
  have hnext : cursor.next.rest = entry.written ++ tail := by
    rw [Cursor.rest_next, hrest]
    rfl
  obtain ⟨after, keyAllowed, htoken, hends⟩ := hentry.isScalar.exists_token? cursor.next tokens tail
    htail hnext (by simp)
  obtain ⟨c, written, hwritten, hstarts⟩ := hentry.isScalar.startsToken
  have hstarts' : StartsToken cursor.next.rest := by
    rw [hnext, hwritten]
    exact ⟨c, _, rfl, hstarts⟩
  -- The space behind the colon is passed over.
  have hblank : skipBlanks (fuelAt cursor) ⟨cursor, tokens, [0], [none], false⟩
      = ⟨cursor.next, tokens, [0], [none], false⟩ := by
    rw [fuelAt, skipBlanks, hrest]
    exact skipBlanks_of_startsToken hstarts' _
  exact ⟨_, run?_succ hblank rfl hstarts' (.inr rfl) htoken,
    atLine_of_endsLine htail hends _⟩

/-- One key with its value is cut into tokens. -/
theorem exists_run?_entry {entry : WrittenEntry} (hentry : entry.IsReadable)
    (htail : StartsLine tail) {tokens : List Token} (hcolumns : columns = [] ∨ columns = [0])
    (h : scanner.AtLine tokens columns (entry.lines ++ tail)) : ∃ next : Scanner,
      (∀ fuel, run? (fuel + 3) scanner = run? fuel next)
        ∧ next.AtLine (tokens ++ (opening columns ++ entry.tokens)) [0] tail := by
  obtain ⟨cursor, hblank, hrest, hcolumn⟩ := h
  rw [entry.lines_append] at hrest
  have hcolon : (cursor.skip entry.key.length).rest = ':' :: ' ' :: (entry.written ++ tail) := by
    rw [Cursor.rest_skip, hrest, List.drop_left]
  have hpositive : 0 < (cursor.skip entry.key.length).column := by
    have hlength := List.length_pos_iff.2 hentry.key_ne_nil
    simp only [Cursor.column_skip]
    omega
  have hvalue : (cursor.skip entry.key.length).next.rest = ' ' :: (entry.written ++ tail) := by
    rw [Cursor.rest_next, hcolon]
    rfl
  have hstartsKey : StartsToken cursor.rest := by
    obtain ⟨c, key, hkey⟩ := List.exists_cons_of_ne_nil hentry.key_ne_nil
    rw [hrest, hkey]
    exact startsToken_of_isKeyChar (hentry.isKeyChar c (by simp [hkey])) _
  -- Three steps: the key, its colon, and the value.
  have hfirst := run?_succ hblank rfl hstartsKey hcolumns
    (token?_of_key tokens hentry.key_ne_nil hentry.isKeyChar hrest columns)
  have hstarts : StartsToken (cursor.skip entry.key.length).rest := by
    rw [hcolon]
    exact ⟨':', _, rfl, by decide, by decide, by decide, by decide, by decide⟩
  have hsecond := run?_succ (skipBlanks_of_startsToken hstarts _)
    (forgetStale?_of_key hrest hentry.byteLength_le _ columns tokens.length
      (columns.head? == some cursor.column) false) hstarts hcolumns
    (token?_of_colon tokens (.scalar true entry.key) _ hcolon hcolumn hpositive hcolumns)
  obtain ⟨next, hthird, hline⟩ := exists_run?_value hentry htail hvalue
    (tokens ++ (opening columns ++ [.key, .scalar true entry.key, .value]))
  refine ⟨next, fun fuel => ?_, ?_⟩
  · rw [hfirst, hsecond, hthird]
  · rw [List.append_assoc, List.append_assoc] at hline
    exact hline

/-- At the end of a record its mapping is closed. -/
theorem run?_of_nil {tokens : List Token} (h : scanner.AtLine tokens [0] []) (fuel : Nat) :
    run? (fuel + 1) scanner = some (tokens ++ [.blockEnd]) := by
  obtain ⟨cursor, hblank, hrest, -⟩ := h
  rw [run?, hblank, forgetStale?_of_none]
  show (if cursor.rest.isEmpty then _ else _) = _
  rw [hrest]
  rfl

theorem startsLine_lines {entries : List WrittenEntry} (h : ∀ entry ∈ entries, entry.IsReadable) :
    StartsLine (entries.flatMap WrittenEntry.lines) := by
  cases entries with
  | nil => nofun
  | cons entry entries =>
    have hentry := h entry List.mem_cons_self
    obtain ⟨c, key, hkey⟩ := List.exists_cons_of_ne_nil hentry.key_ne_nil
    rw [List.flatMap_cons, entry.lines_append, hkey]
    intro d hd
    obtain rfl : c = d := by simpa using hd
    exact hentry.isKeyChar c (by simp [hkey])

/-- The entries of a record that has begun are cut into tokens. -/
theorem run?_entries {entries : List WrittenEntry} (hentries : ∀ entry ∈ entries, entry.IsReadable)
    {tokens : List Token} (h : scanner.AtLine tokens [0] (entries.flatMap WrittenEntry.lines))
    {fuel : Nat} (hfuel : 3 * entries.length < fuel) :
    run? fuel scanner = some (tokens ++ entries.flatMap WrittenEntry.tokens ++ [.blockEnd]) := by
  -- Each entry takes three steps, and leaves the scanner at the start of a line.
  induction entries generalizing scanner tokens fuel with
  | nil =>
    obtain ⟨fuel, rfl⟩ : ∃ n, fuel = n + 1 := ⟨fuel - 1, by omega⟩
    simpa using run?_of_nil h fuel
  | cons entry entries ih =>
    obtain ⟨hentry, hentries⟩ := List.forall_mem_cons.1 hentries
    obtain ⟨fuel, rfl⟩ : ∃ n, fuel = n + 3 := ⟨fuel - 3, by simp at hfuel; omega⟩
    obtain ⟨next, hstep, hline⟩ :=
      exists_run?_entry hentry (startsLine_lines hentries) (.inr rfl) h
    rw [hstep, ih hentries hline (by simp at hfuel; omega)]
    simp [opening]

end Scanner

/-! ## Whole Records -/

variable {entries : List WrittenEntry}

theorem length_le_length_lines (hentries : ∀ entry ∈ entries, entry.IsReadable) :
    3 * entries.length ≤ (entries.flatMap WrittenEntry.lines).length := by
  induction entries with
  | nil => simp
  | cons entry entries ih =>
    obtain ⟨hentry, hentries⟩ := List.forall_mem_cons.1 hentries
    have hkey := List.length_pos_iff.2 hentry.key_ne_nil
    have hrest := ih hentries
    rw [List.flatMap_cons, entry.lines_append]
    simp only [List.length_append, List.length_cons]
    omega

theorem isAdmitted_of_mem_lines (hentries : ∀ entry ∈ entries, entry.IsReadable) :
    ∀ c ∈ entries.flatMap WrittenEntry.lines, isAdmitted c = true := by
  intro c hc
  obtain ⟨entry, hentry, hc⟩ := List.mem_flatMap.1 hc
  have hreadable := hentries entry hentry
  rw [← List.append_nil entry.lines, entry.lines_append] at hc
  rcases List.mem_append.1 hc with hc | hc
  · exact isAdmitted_of_isPrintable (isPrintable_of_isKeyChar (hreadable.isKeyChar c hc))
  rcases List.mem_cons.1 hc with rfl | hc
  · decide
  rcases List.mem_cons.1 hc with rfl | hc
  · decide
  · exact hreadable.isScalar.admitted c (by simpa using hc)

/-- A record is cut into tokens. -/
theorem Token.ofText?_entries (hne : entries ≠ [])
    (hentries : ∀ entry ∈ entries, entry.IsReadable) :
    Token.ofText? (entries.flatMap WrittenEntry.lines)
      = some (.blockMapping :: entries.flatMap WrittenEntry.tokens ++ [.blockEnd]) := by
  have hadmitted : (entries.flatMap WrittenEntry.lines).all isAdmitted = true :=
    List.all_eq_true.2 (isAdmitted_of_mem_lines hentries)
  rw [Token.ofText?, if_pos hadmitted]
  have hfuel : 3 * entries.length < (entries.flatMap WrittenEntry.lines).length + 1 :=
    Nat.lt_succ_of_le (length_le_length_lines hentries)
  generalize (entries.flatMap WrittenEntry.lines).length + 1 = fuel at hfuel ⊢
  obtain ⟨entry, entries, rfl⟩ := List.exists_cons_of_ne_nil hne
  have hline : (Scanner.start ((entry :: entries).flatMap WrittenEntry.lines)).AtLine [] []
      ((entry :: entries).flatMap WrittenEntry.lines) :=
    ⟨_, Scanner.skipBlanks_of_startsLine (Scanner.startsLine_lines hentries) _, rfl, rfl⟩
  obtain ⟨hentry, hentries⟩ := List.forall_mem_cons.1 hentries
  rw [List.length_cons] at hfuel
  obtain ⟨fuel, rfl⟩ : ∃ n, fuel = n + 3 := ⟨fuel - 3, by omega⟩
  -- The first entry also opens the mapping.
  obtain ⟨next, hstep, hline'⟩ :=
    Scanner.exists_run?_entry hentry (Scanner.startsLine_lines hentries) (.inl rfl) hline
  rw [hstep, Scanner.run?_entries hentries hline' (by omega)]
  simp [Scanner.opening]

namespace WrittenEntry

/-- The node of the key with that of the value. -/
def nodes (entry : WrittenEntry) : Node × Node :=
  (.scalar none true entry.key, .scalar none entry.plain entry.text)

end WrittenEntry

namespace Node

/-- The entries of a mapping are read up to its end. -/
theorem blockEntries?_entries (entries : List WrittenEntry) (handles : List (Text × Tag))
    (anchors : Table Text Nat) {fuel : Nat} (hfuel : entries.length + 2 < fuel) :
    blockEntries? fuel ⟨entries.flatMap WrittenEntry.tokens ++ [.blockEnd], handles, anchors⟩
      = some (entries.map WrittenEntry.nodes, ⟨[], handles, anchors⟩) := by
  induction entries generalizing fuel with
  | nil =>
    obtain ⟨fuel, rfl⟩ : ∃ n, fuel = n + 1 := ⟨fuel - 1, by omega⟩
    rfl
  | cons entry entries ih =>
    obtain ⟨fuel, rfl⟩ : ∃ n, fuel = n + 3 := ⟨fuel - 3, by omega⟩
    have hrest := ih (show entries.length + 2 < fuel + 2 by simp at hfuel; omega)
    rw [List.flatMap_cons, List.append_assoc]
    -- An entry is a key and a scalar, which are read by computation.
    show (blockEntries? (fuel + 2)
      ⟨entries.flatMap WrittenEntry.tokens ++ [.blockEnd], handles, anchors⟩).bind _ = _
    rw [hrest]
    rfl

/-- A block mapping is read with its entries. -/
theorem node?_mapping {fuel : Nat} {tokens : List Token} {handles : List (Text × Tag)}
    {anchors : Table Text Nat} {entries : List (Node × Node)} {after : Reading}
    (h : blockEntries? fuel ⟨tokens, handles, anchors⟩ = some (entries, after)) :
    node? (fuel + 2) true false ⟨.blockMapping :: tokens, handles, anchors⟩
      = some (.mapping entries, after) := by
  show ((blockEntries? fuel ⟨tokens, handles, anchors⟩).map _).bind _ = _
  rw [h]
  rfl

/-- The tokens of a record make up a document. -/
theorem document?_entries (entries : List WrittenEntry) (handles : List (Text × Tag))
    (anchors : Table Text Nat) {fuel : Nat} (hfuel : entries.length + 4 < fuel) :
    document? fuel
        ⟨.blockMapping :: entries.flatMap WrittenEntry.tokens ++ [.blockEnd], handles, anchors⟩
      = some (.mapping (entries.map WrittenEntry.nodes), ⟨[], handles, anchors⟩) := by
  obtain ⟨fuel, rfl⟩ : ∃ n, fuel = n + 2 := ⟨fuel - 2, by omega⟩
  exact node?_mapping (blockEntries?_entries entries handles anchors (by omega))

theorem length_tokens (entries : List WrittenEntry) :
    (entries.flatMap WrittenEntry.tokens).length = 4 * entries.length := by
  induction entries with
  | nil => rfl
  | cons entry entries ih =>
    rw [List.flatMap_cons, List.length_append, ih, List.length_cons, WrittenEntry.tokens]
    simp only [List.length_cons, List.length_nil]
    omega

/-- A record is read back. -/
theorem ofText?_entries {entries : List WrittenEntry} (hne : entries ≠ [])
    (hentries : ∀ entry ∈ entries, entry.IsReadable) :
    ofText? (entries.flatMap WrittenEntry.lines)
      = some (.mapping (entries.map WrittenEntry.nodes)) := by
  rw [ofText?, Token.ofText?_entries hne hentries]
  have hfuel : entries.length + 4 < 3 * (Token.blockMapping ::
      entries.flatMap WrittenEntry.tokens ++ [Token.blockEnd]).length + 3 := by
    rw [List.length_append, List.length_cons, length_tokens, List.length_singleton]
    omega
  simp only [Option.bind_eq_bind, Option.bind_some, document?_entries entries _ _ hfuel,
    List.all_nil, if_true]

end Node

end MaterialNode.Yaml
