import HostTypes.Proofs.Toml.Counts

/-!
Documents of sections. `Spells` says of some characters that they are read as a value in front of every
line break; texts, truths and counts are spelt by what is written for them. `ReadsAs` says what a document
comes to from some line on; it is kept by a line with a value in front, and so a section with distinct
keys is read back with all its values in order (`readsAs_writeSection`).
-/

namespace HostTypes

namespace Toml

/-! ## Values -/

theorem skipSpaces_of_head {input : List Char} (start : ∀ c ∈ input.head?, isSpace c = false) :
    skipSpaces input = input := by
  cases input with
  | nil => rfl
  | cons c rest =>
      have first : isSpace c = false := start c rfl
      simp [skipSpaces, first]

/-- The characters are read as the value in front of every line break. -/
structure Spells (written : List Char) (value : Toml) : Prop where
  start : ∀ c ∈ written.head?, isSpace c = false
  reads (fuel depth : Nat) (rest : List Char) :
    readValue? (fuel + 1) depth (written ++ '\n' :: rest) = some (value, '\n' :: rest)

theorem exists_writeText (content : List Char) :
    ∃ quote more, writeText content = quote :: more ∧ (quote = '"' ∨ quote = '\'') := by
  unfold writeText
  cases textNotation content with
  | basic => exact ⟨_, _, rfl, .inl rfl⟩
  | literal => exact ⟨_, _, rfl, .inr rfl⟩
  | longBasic => exact ⟨_, _, rfl, .inl rfl⟩
  | longLiteral => exact ⟨_, _, rfl, .inr rfl⟩

theorem spells_text (content : String) : Spells (writeText content.toList) (text content) := by
  obtain ⟨quote, more, written, either⟩ := exists_writeText content.toList
  constructor
  · rw [written]
    obtain rfl | rfl := either <;> simp [isSpace]
  · intro fuel depth rest
    have read : readText? (writeText content.toList ++ '\n' :: rest) = some (content.toList, '\n' :: rest) :=
      readText?_writeText content.toList (by simp) (by simp)
    rw [written, List.cons_append] at read ⊢
    rw [readValue?.eq_def]
    simp [either, read]

theorem spells_truth (value : Bool) : Spells (writeTruth value) (truth value) := by
  cases value with
  | false =>
      refine ⟨by simp [writeTruth, isSpace], fun fuel depth rest => ?_⟩
      simp [writeTruth, readValue?]
  | true =>
      refine ⟨by simp [writeTruth, isSpace], fun fuel depth rest => ?_⟩
      simp [writeTruth, readValue?]

theorem spells_count {n : Nat} (fits : n < twoTo 63) : Spells (toString n).toList (integer n) := by
  have decimal : (toString n).toList = Nat.toDigits 10 n := Nat.toList_repr
  obtain ⟨c, more, written, digit⟩ := exists_toDigits n
  constructor
  · have space : c ≠ ' ' := ne_of_class digit rfl
    have tab : c ≠ '\t' := ne_of_class digit rfl
    simp [written, isSpace, space, tab]
  · intro fuel depth rest
    have double : c ≠ '"' := ne_of_class digit rfl
    have single : c ≠ '\'' := ne_of_class digit rfl
    have bracket : c ≠ '[' := ne_of_class digit rfl
    have brace : c ≠ '\x7b' := ne_of_class digit rfl
    have truth : c ≠ 't' := ne_of_class digit rfl
    have falsehood : c ≠ 'f' := ne_of_class digit rfl
    have read := readNumeric?_toDigits fits rest
    rw [decimal]
    rw [written, List.cons_append] at read ⊢
    rw [readValue?.eq_def]
    simp [double, single, bracket, brace, truth, falsehood, read]

/-! ## Keys -/

variable {rest : List Char}

/-- A key that needs no quotes. -/
def IsBare (key : String) : Prop :=
  key.toList ≠ [] ∧ ∀ c ∈ key.toList, isBareKeyChar c

instance : DecidablePred IsBare := fun key =>
  decidable_of_iff (key.toList ≠ [] ∧ key.toList.all isBareKeyChar)
    (and_congr_right fun _ => List.all_eq_true)

theorem IsBare.exists_cons {key : String} (bare : IsBare key) :
    ∃ c more, key.toList = c :: more ∧ isBareKeyChar c := by
  obtain ⟨c, more, written⟩ := List.exists_cons_of_ne_nil bare.1
  exact ⟨c, more, written, bare.2 c (written ▸ List.mem_cons_self)⟩

theorem IsBare.skipSpaces {key : String} (bare : IsBare key) :
    skipSpaces (key.toList ++ rest) = key.toList ++ rest := by
  obtain ⟨c, more, written, first⟩ := bare.exists_cons
  have space : c ≠ ' ' := ne_of_class first rfl
  have tab : c ≠ '\t' := ne_of_class first rfl
  exact skipSpaces_of_head (by simp [written, isSpace, space, tab])

theorem IsBare.readKey? {key : String} (bare : IsBare key)
    (stop : ∀ c ∈ rest.head?, isBareKeyChar c = false) :
    readKey? (key.toList ++ rest) = some (key, rest) := by
  obtain ⟨taken, dropped⟩ := cut_while bare.2 stop
  obtain ⟨c, more, written, first⟩ := bare.exists_cons
  have double : c ≠ '"' := ne_of_class first rfl
  have single : c ≠ '\'' := ne_of_class first rfl
  have empty : key ≠ "" := by
    rintro rfl
    exact bare.1 rfl
  rw [Toml.readKey?]
  · simp [taken, dropped, empty]
  all_goals simp [written, double, single]

theorem IsBare.readPath? {key : String} (bare : IsBare key)
    (stop : ∀ c ∈ rest.head?, isBareKeyChar c = false) (alone : (Toml.skipSpaces rest).head? ≠ some '.') :
    readPath? (key.toList ++ rest) = some ([key], Toml.skipSpaces rest) := by
  have levels : nestingLimit - 1 = 78 + 1 := rfl
  rw [Toml.readPath?, levels, readKeyParts?, bare.skipSpaces, bare.readKey? stop]
  simp only [Option.bind_eq_bind, Option.bind_some]
  split
  · next more dotted => simp [dotted] at alone
  · rfl

/-! ## Lines -/

/-- From here on the document comes to the fields. -/
def ReadsAs (document : OpenDocument) (input : List Char) (fields : Fields) : Prop :=
  ∀ fuel, input.length < fuel → readLines? fuel document input = some fields

variable {document : OpenDocument} {fields : Fields}

theorem readsAs_nil : ReadsAs document [] document.fields := by
  intro fuel enough
  obtain ⟨fuel, rfl⟩ := Nat.exists_eq_add_one.2 enough
  rfl

theorem ReadsAs.blank (reads : ReadsAs document rest fields) : ReadsAs document ('\n' :: rest) fields := by
  intro fuel enough
  obtain ⟨fuel, rfl⟩ := Nat.exists_eq_add_one.2 (Nat.zero_lt_of_lt enough)
  exact reads fuel (Nat.lt_of_succ_lt_succ enough)

theorem Spells.skipSpaces {written : List Char} {value : Toml} (spells : Spells written value) :
    skipSpaces (' ' :: (written ++ '\n' :: rest)) = written ++ '\n' :: rest := by
  have space : Toml.skipSpaces (' ' :: (written ++ '\n' :: rest)) =
    Toml.skipSpaces (written ++ '\n' :: rest) := rfl
  rw [space]
  refine skipSpaces_of_head ?_
  cases written with
  | nil => simp [isSpace]
  | cons c more => exact spells.start

theorem readLines?_field {key : String} {written : List Char} {value : Toml} (bare : IsBare key)
    (spells : Spells written value) (fuel : Nat) :
    readLines? (fuel + 1) document (writeField key written ++ rest) =
      (changeAt? (insert? value [key]) document.path document.fields).bind fun fields =>
        readLines? fuel ⟨fields, document.path⟩ rest := by
  have line : writeField key written ++ rest =
      key.toList ++ ' ' :: '=' :: ' ' :: (written ++ '\n' :: rest) := by simp [writeField]
  have path : readPath? (key.toList ++ ' ' :: '=' :: ' ' :: (written ++ '\n' :: rest)) =
      some ([key], '=' :: ' ' :: (written ++ '\n' :: rest)) :=
    bare.readPath? (by simp [isBareKeyChar]) (by simp [Toml.skipSpaces, isSpace])
  obtain ⟨c, more, text, first⟩ := bare.exists_cons
  have comment : c ≠ '#' := ne_of_class first rfl
  have feed : c ≠ '\n' := ne_of_class first rfl
  have back : c ≠ '\r' := ne_of_class first rfl
  have header : c ≠ '[' := ne_of_class first rfl
  rw [line, readLines?, bare.skipSpaces]
  rw [text, List.cons_append] at path ⊢
  simp [comment, feed, back, header, path, afterChar?, spells.skipSpaces, spells.reads]
  rfl

theorem readLines?_header {name : String} (bare : IsBare name) (fuel : Nat) :
    readLines? (fuel + 1) document ('[' :: name.toList ++ [']', '\n'] ++ rest) =
      (openTable? name document.fields).bind fun fields => readLines? fuel ⟨fields, [name]⟩ rest := by
  have path : readPath? (name.toList ++ ']' :: '\n' :: rest) = some ([name], ']' :: '\n' :: rest) :=
    bare.readPath? (by simp [isBareKeyChar]) (by simp [Toml.skipSpaces, isSpace])
  obtain ⟨c, more, text, first⟩ := bare.exists_cons
  have header : c ≠ '[' := ne_of_class first rfl
  have ends : endLine? ('\n' :: rest) = some rest := rfl
  have opens : openAt? openTable? document [name] =
    (openTable? name document.fields).bind fun fields => some ⟨fields, [name]⟩ := rfl
  rw [readLines?]
  rw [text, List.cons_append] at path
  simp [text, Toml.skipSpaces, isSpace, header, path, readHeader?, ends, opens, Option.bind_assoc]

/-! ## Sections -/

theorem replaceField_append {name : String} {old value : Toml} (new : fields.lookup name = none) :
    replaceField name value (fields ++ [(name, old)]) = fields ++ [(name, value)] := by
  induction fields with
  | nil => simp [replaceField]
  | cons field others ih =>
      rw [List.lookup_cons] at new
      split at new
      · cases new
      · next other =>
          have different : field.1 ≠ name := Ne.symm (beq_eq_false_iff_ne.1 (by simpa using other))
          simp [replaceField, different, ih new]

theorem changeAt?_append {change : Fields → Option Fields} {name : String} {inner changed : Fields}
    (new : fields.lookup name = none) (change_eq : change inner = some changed) :
    changeAt? change [name] (fields ++ [(name, table .header inner)]) =
      some (fields ++ [(name, table .header changed)]) := by
  have found : (fields ++ [(name, table .header inner)]).lookup name = some (table .header inner) := by
    simp [List.lookup_append, new]
  simp [changeAt?, found, change_eq, replaceField_append new]

/-- A field of a section as it is written and as it is read. -/
structure SpeltField where
  key : String
  written : List Char
  value : Toml
  bare : IsBare key
  spells : Spells written value

namespace SpeltField

def chars (field : SpeltField) : List Char :=
  writeField field.key field.written

def pair (field : SpeltField) : String × Toml :=
  (field.key, field.value)

end SpeltField

variable {name : String} {result inner : Fields}

theorem ReadsAs.cons_field (field : SpeltField) (new : fields.lookup name = none)
    (distinct : inner.lookup field.key = none)
    (reads : ReadsAs ⟨fields ++ [(name, table .header (inner ++ [field.pair]))], [name]⟩ rest result) :
    ReadsAs ⟨fields ++ [(name, table .header inner)], [name]⟩ (field.chars ++ rest) result := by
  intro fuel enough
  obtain ⟨fuel, rfl⟩ := Nat.exists_eq_add_one.2 (Nat.zero_lt_of_lt enough)
  have inserted : insert? field.value [field.key] inner = some (inner ++ [field.pair]) := by
    simp [insert?, distinct, SpeltField.pair]
  rw [SpeltField.chars, readLines?_field field.bare field.spells, changeAt?_append new inserted,
    Option.bind_some]
  refine reads fuel ?_
  have longer : rest.length < (field.chars ++ rest).length := by
    simp [SpeltField.chars, writeField]
    omega
  omega

theorem ReadsAs.append_fields {entries : List SpeltField} (new : fields.lookup name = none)
    (distinct : (inner.map Prod.fst ++ entries.map SpeltField.key).Nodup)
    (reads : ReadsAs ⟨fields ++ [(name, table .header (inner ++ entries.map SpeltField.pair))], [name]⟩
      rest result) :
    ReadsAs ⟨fields ++ [(name, table .header inner)], [name]⟩
      ((entries.map SpeltField.chars).flatten ++ rest) result := by
  induction entries generalizing inner with
  | nil => simpa using reads
  | cons field others ih =>
      rw [List.map_cons, List.flatten_cons, List.append_assoc]
      have first : inner.lookup field.key = none := by
        refine List.lookup_eq_none_iff.2 fun earlier member => ?_
        have apart := (List.nodup_append.1 distinct).2.2 earlier.1 (List.mem_map_of_mem member) field.key
          List.mem_cons_self
        exact bne_iff_ne.2 (Ne.symm apart)
      refine ReadsAs.cons_field field new first (ih ?_ ?_)
      · simpa [SpeltField.pair] using distinct
      · simpa using reads

theorem readsAs_writeSection (bare : IsBare name) {entries : List SpeltField}
    (distinct : (entries.map SpeltField.key).Nodup) (new : fields.lookup name = none) {path : List String}
    (reads : ReadsAs ⟨fields ++ [(name, table .header (entries.map SpeltField.pair))], [name]⟩ rest
      result) :
    ReadsAs ⟨fields, path⟩ (writeSection name (entries.map SpeltField.chars) ++ rest) result := by
  intro fuel enough
  obtain ⟨fuel, rfl⟩ := Nat.exists_eq_add_one.2 (Nat.zero_lt_of_lt enough)
  have opened : openTable? name fields = some (fields ++ [(name, table .header [])]) := by
    simp [openTable?, new]
  rw [writeSection, List.append_assoc, readLines?_header bare, opened, Option.bind_some]
  have inside : ReadsAs ⟨fields ++ [(name, table .header [])], [name]⟩
      ((entries.map SpeltField.chars).flatten ++ rest) result :=
    ReadsAs.append_fields new distinct reads
  refine inside fuel ?_
  simp [writeSection] at enough ⊢
  omega

theorem read?_of_readsAs {input : List Char} (start : input.head? ≠ some '\ufeff')
    (reads : ReadsAs ⟨[], []⟩ input fields) : read? input = some fields := by
  unfold read?
  split
  · exact absurd rfl start
  · exact reads _ (Nat.lt_succ_self input.length)

end Toml

end HostTypes
