import MaterialNode.Json.Printer
import MaterialNode.Json.Reader

/-!
# Reading What Was Printed

A value reads back if the reader takes it from its printed text, at every level of indentation and
whatever follows. This is shown for one kind of value after the other, so that a document is read
back as soon as each of its parts is.

## Main results

* `readsBack_string`, `readsBack_bool`, `readsBack_array`, `readsBack_object`: the kinds of values
  that read back. The names of members are spelled without escapes.
* `read?_print`: a document reads back if its value does.
-/

namespace MaterialNode.Json

open Value

/-! ## Strings -/

/-- Whether a character stands for itself in a string. -/
def isPlain (c : Char) : Bool := decide (writeChar c = [c])

/-- The token of a string that was printed. -/
def StringToken.ofText (text : Text) : StringToken := ⟨some text, text.all isPlain⟩

/-- Two hexadecimal digits after two zeros spell a control character. -/
theorem hexWord?_control : ∀ n < 0x20,
    List.replicate (4 - (Nat.toDigits 16 n).length) '0' ++ Nat.toDigits 16 n
        = ['0', '0', Nat.digitChar (n / 16), Nat.digitChar (n % 16)]
      ∧ hexWord? '0' '0' (Nat.digitChar (n / 16)) (Nat.digitChar (n % 16)) = some n := by
  decide

/-- The reader takes one printed character. -/
theorem stringRest?_writeChar (c : Char) (rest : Text) :
    stringRest? (writeChar c ++ rest) = (stringRest? rest).map fun (token, after) =>
      (if isPlain c then token.prepend c else token.prependEscaped c, after) := by
  by_cases hquote : c = '"'
  · subst hquote; rfl
  by_cases hslash : c = '\\'
  · subst hslash; rfl
  by_cases hback : c = '\x08'
  · subst hback; rfl
  by_cases hfeed : c = '\x0c'
  · subst hfeed; rfl
  by_cases hline : c = '\n'
  · subst hline; rfl
  by_cases hreturn : c = '\r'
  · subst hreturn; rfl
  by_cases htab : c = '\t'
  · subst htab; rfl
  by_cases hcontrol : c.toNat < 0x20
  · -- The other control characters are spelled by their number.
    obtain ⟨hdigits, hword⟩ := hexWord?_control c.toNat hcontrol
    have hwrite : writeChar c = ['\\', 'u', '0', '0', Nat.digitChar (c.toNat / 16),
        Nat.digitChar (c.toNat % 16)] := by
      simp [writeChar, *]
    have hplain : isPlain c = false := by
      simp [isPlain, hwrite]
    have hsmall : ¬ 0xD800 ≤ c.toNat := by omega
    have hlow : ¬ 0xDC00 ≤ c.toNat := by omega
    rw [hwrite, hplain]
    simp [stringRest?, hword, hsmall, hlow, Char.ofNat_toNat]
  · have hwrite : writeChar c = [c] := by
      simp [writeChar, *]
    have hplain : isPlain c = true := by
      simp [isPlain, hwrite]
    rw [hwrite, hplain]
    rw [List.singleton_append, stringRest?]
    · simp [hcontrol, hslash]
    · simpa using hquote
    · simp_all
    · simp_all

theorem stringRest?_flatMap_writeChar (text rest : Text) :
    stringRest? (text.flatMap writeChar ++ '"' :: rest) = some (.ofText text, rest) := by
  induction text with
  | nil => rfl
  | cons c text ih =>
    rw [List.flatMap_cons, List.append_assoc, stringRest?_writeChar, ih, Option.map_some]
    by_cases hplain : isPlain c = true
    · simp [hplain, StringToken.ofText, StringToken.prepend]
    · simp [hplain, StringToken.ofText, StringToken.prependEscaped]

/-! ## Blanks -/

/-- A text whose first character is no blank is left alone. -/
theorem skipSpace_cons {c : Char} (h : isSpace c = false) (text : Text) :
    skipSpace (c :: text) = c :: text := by
  rw [skipSpace, List.dropWhile_cons_of_neg (by simp [h])]

/-- The blanks of a new line do not count. -/
theorem skipSpace_newLine_append (level : Nat) (text : Text) :
    skipSpace (newLine level ++ text) = skipSpace text := by
  have hblank : ∀ c ∈ newLine level, isSpace c = true := by
    intro c hc
    rcases List.mem_cons.1 hc with rfl | hc
    · rfl
    · rw [List.eq_of_mem_replicate hc]
      rfl
  rw [skipSpace, skipSpace, List.dropWhile_append_of_pos hblank]

theorem skipSpace_skipSpace (text : Text) : skipSpace (skipSpace text) = skipSpace text := by
  induction text with
  | nil => rfl
  | cons c text ih =>
    by_cases h : isSpace c = true
    · have hskip : skipSpace (c :: text) = skipSpace text := List.dropWhile_cons_of_pos h
      rw [hskip, ih]
    · rw [skipSpace_cons (by simpa using h), skipSpace_cons (by simpa using h)]

/-- The reader skips the blanks before a value. -/
theorem value?_skipSpace (fuel : Nat) (text : Text) :
    value? fuel (skipSpace text) = value? fuel text := by
  cases fuel with
  | zero => rfl
  | succ fuel => rw [value?, value?, skipSpace_skipSpace]

theorem items?_skipSpace (fuel : Nat) (text : Text) :
    items? fuel (skipSpace text) = items? fuel text := by
  cases fuel with
  | zero => rfl
  | succ fuel => rw [items?, items?, value?_skipSpace]

theorem members?_skipSpace (fuel : Nat) (text : Text) :
    members? fuel (skipSpace text) = members? fuel text := by
  cases fuel with
  | zero => rfl
  | succ fuel => rw [members?, members?, skipSpace_skipSpace]

/-- No value starts with a closing bracket. -/
theorem skipSpace_ne_of_value? {fuel : Nat} {text : Text} {read : Value × Text}
    (h : value? fuel text = some read) (rest : Text) : skipSpace text ≠ ']' :: rest := by
  intro hbracket
  cases fuel with
  | zero => cases h
  | succ fuel =>
    rw [value?, hbracket] at h
    cases h

/-! ## Values that Read Back -/

/-- A value reads back if the reader takes it from its printed text at every level, whatever
follows, in as many steps as the text has characters. -/
def ReadsBack (value : Value) : Prop :=
  ∀ (level fuel : Nat) (rest : Text), (write level value).length < fuel →
    value? fuel (write level value ++ rest) = some (value, rest)

/-- A truth value is read back. -/
theorem readsBack_bool (b : Bool) : ReadsBack (.bool b) := by
  intro level fuel rest hfuel
  cases fuel with
  | zero => omega
  | succ fuel => cases b <;> rfl

theorem writeString_append (text rest : Text) :
    writeString text ++ rest = '"' :: (text.flatMap writeChar ++ '"' :: rest) := by
  simp [writeString]

/-- A string is read back, whatever characters it has. -/
theorem readsBack_string (text : Text) : ReadsBack (.string text) := by
  intro level fuel rest hfuel
  cases fuel with
  | zero => omega
  | succ fuel =>
    rw [write, writeString_append, value?, skipSpace_cons (by decide)]
    show (stringRest? _).map _ = _
    rw [stringRest?_flatMap_writeChar]
    rfl

/-! ### Arrays -/

section Items

variable {fuel : Nat} {text after rest : Text} {item : Value} {items : List Value}

theorem items?_of_bracket (hitem : value? fuel text = some (item, after))
    (hafter : skipSpace after = ']' :: rest) : items? (fuel + 1) text = some ([item], rest) := by
  rw [items?, hitem]
  simp [hafter]

theorem items?_of_comma (hitem : value? fuel text = some (item, after))
    (hafter : skipSpace after = ',' :: rest) {last : Text}
    (hrest : items? fuel rest = some (items, last)) :
    items? (fuel + 1) text = some (item :: items, last) := by
  rw [items?, hitem]
  simp [hafter, hrest]

/-- The reader takes the items of an array up to the closing bracket. -/
theorem items?_writeItems (hitem : ReadsBack item) (hitems : ∀ item ∈ items, ReadsBack item)
    (level outer : Nat) (rest : Text)
    (hfuel : (write level item).length + (writeItems level items).length + 1 < fuel) :
    items? fuel (write level item ++ (writeItems level items ++ (newLine outer ++ ']' :: rest)))
      = some (item :: items, rest) := by
  obtain ⟨fuel, rfl⟩ : ∃ steps, fuel = steps + 1 := ⟨fuel - 1, by omega⟩
  have hread := hitem level fuel (writeItems level items ++ (newLine outer ++ ']' :: rest))
    (by omega)
  induction items generalizing item fuel with
  | nil =>
    apply items?_of_bracket hread
    rw [writeItems, List.nil_append, skipSpace_newLine_append, skipSpace_cons (by decide)]
  | cons next items ih =>
    obtain ⟨hnext, hitems⟩ := List.forall_mem_cons.1 hitems
    have htext : writeItems level (next :: items) ++ (newLine outer ++ ']' :: rest)
        = ',' :: (newLine level ++ (write level next
          ++ (writeItems level items ++ (newLine outer ++ ']' :: rest)))) := by
      simp [writeItems]
    have hlength : (writeItems level (next :: items)).length
        = 1 + (newLine level).length + (write level next).length
          + (writeItems level items).length := by
      simp [writeItems]
      omega
    rw [htext] at hread ⊢
    apply items?_of_comma hread (skipSpace_cons (by decide) _)
    -- The blanks before the next item do not count.
    rw [← items?_skipSpace, skipSpace_newLine_append, items?_skipSpace]
    obtain ⟨fuel, rfl⟩ : ∃ steps, fuel = steps + 1 := ⟨fuel - 1, by omega⟩
    exact ih hnext hitems fuel (by omega) (hnext level fuel _ (by omega))

/-- The reader takes an array that is not empty. -/
theorem value?_of_items? (hne : ∀ rest, skipSpace text ≠ ']' :: rest)
    (hread : items? fuel text = some (items, rest)) :
    value? (fuel + 1) ('[' :: text) = some (.array items, rest) := by
  rw [value?, skipSpace_cons (by decide)]
  -- By `hne` the bracket is not closed at once.
  simp only [items?_skipSpace, hread, Option.map_some]

end Items

/-- An array is read back if its items are. -/
theorem readsBack_array {items : List Value} (h : ∀ item ∈ items, ReadsBack item) :
    ReadsBack (.array items) := by
  intro level fuel rest hfuel
  obtain ⟨fuel, rfl⟩ : ∃ steps, fuel = steps + 1 := ⟨fuel - 1, by omega⟩
  cases items with
  | nil => rfl
  | cons item items =>
    obtain ⟨hitem, hitems⟩ := List.forall_mem_cons.1 h
    have htext : write level (.array (item :: items)) ++ rest
        = '[' :: (newLine (level + 1) ++ (write (level + 1) item
          ++ (writeItems (level + 1) items ++ (newLine level ++ ']' :: rest)))) := by
      simp [write]
    have hlength : (write level (.array (item :: items))).length
        = 2 + (newLine (level + 1)).length + (write (level + 1) item).length
          + (writeItems (level + 1) items).length + (newLine level).length := by
      simp [write]
      omega
    have hfirst := hitem (level + 1) fuel
      (writeItems (level + 1) items ++ (newLine level ++ ']' :: rest)) (by omega)
    rw [htext]
    apply value?_of_items?
    · rw [skipSpace_newLine_append]
      exact skipSpace_ne_of_value? hfirst
    · rw [← items?_skipSpace, skipSpace_newLine_append, items?_skipSpace]
      exact items?_writeItems hitem hitems (level + 1) level rest (by omega)

/-! ### Objects -/

section Members

variable {fuel : Nat} {name text after rest : Text} {value : Value} {members : List (Key × Value)}

/-- The name of a member that is spelled without escapes. -/
def IsPlainName (name : Text) : Prop := name.all isPlain = true

instance (name : Text) : Decidable (IsPlainName name) := inferInstanceAs (Decidable (_ = true))

theorem ofText_toKey (h : IsPlainName name) : (StringToken.ofText name).toKey = ⟨name, .plain⟩ := by
  unfold StringToken.ofText
  rw [h]
  rfl

/-- The reader takes the name of a member before its value, and ends with the last member. -/
theorem members?_of_brace (hname : IsPlainName name)
    (hvalue : value? fuel text = some (value, after)) (hafter : skipSpace after = '}' :: rest) :
    members? (fuel + 1) (writeString name ++ (':' :: text))
      = some ([(⟨name, .plain⟩, value)], rest) := by
  rw [writeString_append, members?, skipSpace_cons (by decide)]
  simp only [stringRest?_flatMap_writeChar, skipSpace_cons (c := ':') (by decide), hvalue, hafter,
    ofText_toKey hname]

/-- It goes on after a comma. -/
theorem members?_of_comma (hname : IsPlainName name)
    (hvalue : value? fuel text = some (value, after)) (hafter : skipSpace after = ',' :: rest)
    {last : Text} (hrest : members? fuel rest = some (members, last)) :
    members? (fuel + 1) (writeString name ++ (':' :: text))
      = some ((⟨name, .plain⟩, value) :: members, last) := by
  rw [writeString_append, members?, skipSpace_cons (by decide)]
  simp only [stringRest?_flatMap_writeChar, skipSpace_cons (c := ':') (by decide), hvalue, hafter,
    ofText_toKey hname, hrest, Option.map_some]

/-- The blank before the value of a member does not count. -/
theorem value?_space (fuel : Nat) (text : Text) : value? fuel (' ' :: text) = value? fuel text := by
  rw [← value?_skipSpace fuel (' ' :: text), ← value?_skipSpace fuel text]
  rfl

/-- Members read back if their names are plain and their values read back. -/
def MembersReadBack (members : List (Key × Value)) : Prop :=
  ∀ member ∈ members, (∃ name, IsPlainName name ∧ member.1 = ⟨name, .plain⟩)
    ∧ ReadsBack member.2

/-- The reader takes the members of an object up to the closing brace. -/
theorem members?_writeMembers (hname : IsPlainName name) (hvalue : ReadsBack value)
    (hmembers : MembersReadBack members) (level outer : Nat) (rest : Text)
    (hfuel : (writeString name).length + (write level value).length
      + (writeMembers level members).length + 1 < fuel) :
    members? fuel (writeString name ++ (':' :: ' ' :: (write level value
        ++ (writeMembers level members ++ (newLine outer ++ '}' :: rest)))))
      = some ((⟨name, .plain⟩, value) :: members, rest) := by
  obtain ⟨fuel, rfl⟩ : ∃ steps, fuel = steps + 1 := ⟨fuel - 1, by omega⟩
  have hread := hvalue level fuel (writeMembers level members ++ (newLine outer ++ '}' :: rest))
    (by omega)
  rw [← value?_space] at hread
  induction members generalizing name value fuel with
  | nil =>
    apply members?_of_brace hname hread
    rw [writeMembers, List.nil_append, skipSpace_newLine_append, skipSpace_cons (by decide)]
  | cons next members ih =>
    obtain ⟨key, nextValue⟩ := next
    obtain ⟨⟨⟨nextName, hnextName, hkey⟩, hnext⟩, hrest⟩ := List.forall_mem_cons.1 hmembers
    obtain rfl : key = ⟨nextName, .plain⟩ := hkey
    have hnext : ReadsBack nextValue := hnext
    have htext : writeMembers level ((⟨nextName, .plain⟩, nextValue) :: members)
          ++ (newLine outer ++ '}' :: rest)
        = ',' :: (newLine level ++ (writeString nextName ++ (':' :: ' ' :: (write level nextValue
          ++ (writeMembers level members ++ (newLine outer ++ '}' :: rest)))))) := by
      simp [writeMembers]
    have hlength : (writeMembers level ((⟨nextName, .plain⟩, nextValue) :: members)).length
        = 3 + (newLine level).length + (writeString nextName).length
          + (write level nextValue).length + (writeMembers level members).length := by
      simp [writeMembers]
      omega
    rw [htext] at hread ⊢
    apply members?_of_comma hname hread (skipSpace_cons (by decide) _)
    rw [← members?_skipSpace, skipSpace_newLine_append, members?_skipSpace]
    obtain ⟨fuel, rfl⟩ : ∃ steps, fuel = steps + 1 := ⟨fuel - 1, by omega⟩
    refine ih hnextName hnext hrest fuel (by omega) ?_
    rw [value?_space]
    exact hnext level fuel _ (by omega)

/-- The reader takes an object that is not empty. -/
theorem value?_of_members? (hne : ∀ rest, skipSpace text ≠ '}' :: rest)
    (hread : members? fuel text = some (members, rest)) :
    value? (fuel + 1) ('{' :: text) = some (.object members, rest) := by
  rw [value?, skipSpace_cons (by decide)]
  -- By `hne` the brace is not closed at once.
  simp only [members?_skipSpace, hread, Option.map_some]

end Members

/-- An object is read back if its members are. -/
theorem readsBack_object {members : List (Key × Value)} (h : MembersReadBack members) :
    ReadsBack (.object members) := by
  intro level fuel rest hfuel
  obtain ⟨fuel, rfl⟩ : ∃ steps, fuel = steps + 1 := ⟨fuel - 1, by omega⟩
  cases members with
  | nil => rfl
  | cons member members =>
    obtain ⟨key, value⟩ := member
    obtain ⟨⟨⟨name, hname, hkey⟩, hvalue⟩, hmembers⟩ := List.forall_mem_cons.1 h
    obtain rfl : key = ⟨name, .plain⟩ := hkey
    have hvalue : ReadsBack value := hvalue
    have htext : write level (.object ((⟨name, .plain⟩, value) :: members)) ++ rest
        = '{' :: (newLine (level + 1) ++ (writeString name ++ (':' :: ' ' ::
          (write (level + 1) value ++ (writeMembers (level + 1) members
            ++ (newLine level ++ '}' :: rest)))))) := by
      simp [write]
    have hlength : (write level (.object ((⟨name, .plain⟩, value) :: members))).length
        = 4 + (newLine (level + 1)).length + (writeString name).length
          + (write (level + 1) value).length + (writeMembers (level + 1) members).length
          + (newLine level).length := by
      simp [write]
      omega
    rw [htext]
    apply value?_of_members?
    · intro rest
      rw [skipSpace_newLine_append, writeString, List.cons_append, skipSpace_cons (by decide)]
      simp
    · rw [← members?_skipSpace, skipSpace_newLine_append, members?_skipSpace]
      exact members?_writeMembers hname hvalue hmembers (level + 1) level rest (by omega)

/-! ## Documents -/

/-- A document holds the value that it was printed from. -/
theorem read?_print {value : Value} (h : ReadsBack value) : read? value.print = some value := by
  have hread := h 0 (2 * value.print.length + 2) [] (by unfold print; omega)
  rw [List.append_nil] at hread
  rw [read?, print] at *
  rw [hread]
  rfl

end MaterialNode.Json
