import HostTypes.Toml.Reader
import HostTypes.Toml.Writer
import Mathlib.Tactic.SplitIfs

/-!
Texts in TOML documents. Each of the four notations is read back on its own, and so every text is read
back from the notation that is chosen for it (`readText?_writeText`). In long notations quotes may stand
for themselves as long as no three of them meet, and the text may end with quotes next to the closing
ones (`Closes.quote`).
-/

namespace HostTypes

namespace Toml

variable {rest : List Char}

/-! ## Characters -/

theorem ne_of_class {p : Char → Bool} {c other : Char} (inside : p c) (outside : p other = false) :
    c ≠ other := by
  rintro rfl
  exact Bool.false_ne_true (outside.symm.trans inside)

theorem isPlain_of_not_isControl {c : Char} (control : isControl c = false) (line : c ≠ '\n') :
    isPlain c := by
  by_cases tab : c = '\t'
  · subst tab
    rfl
  · have shown : ¬ c.toNat < 0x20 ∧ c.toNat ≠ 0x7F := by simpa [isControl, tab, line] using control
    simpa [isPlain, tab] using shown

theorem hexDigit?_hexDigit : ∀ n < 16, hexDigit? (hexDigit n) = some n := by
  decide

theorem charOfHex?_hexDigit {c : Char} (control : isControl c) :
    charOfHex? ['0', '0', hexDigit (c.toNat / 16), hexDigit (c.toNat % 16)] = some c := by
  have small : c.toNat < 128 := by
    simp only [isControl, Bool.or_eq_true, Bool.and_eq_true, decide_eq_true_eq] at control
    omega
  have zero : hexDigit? '0' = some 0 := by decide
  have high : hexDigit? (hexDigit (c.toNat / 16)) = some (c.toNat / 16) :=
    hexDigit?_hexDigit _ (by omega)
  have low : hexDigit? (hexDigit (c.toNat % 16)) = some (c.toNat % 16) :=
    hexDigit?_hexDigit _ (by omega)
  have digits : 16 * (c.toNat / 16) + c.toNat % 16 = c.toNat := Nat.div_add_mod _ _
  have scalar : c.toNat.isValidChar := c.valid
  simp [charOfHex?, zero, high, low, digits, scalar, Char.ofNat_toNat]

/-! ## Escaped characters -/

theorem not_code_of_escape? {letter c : Char} (stands : escape? letter = some c) :
    letter ≠ 'u' ∧ letter ≠ 'U' := by
  constructor
  all_goals
    rintro rfl
    cases stands

theorem readBasic?_letter {letter c : Char} (stands : escape? letter = some c) :
    readBasic? ('\\' :: letter :: rest) = consRead c (readBasic? rest) := by
  obtain ⟨lower, upper⟩ := not_code_of_escape? stands
  simp [readBasic?, lower, upper, stands]

theorem readLongBasic?_letter {letter c : Char} (stands : escape? letter = some c) :
    readLongBasic? .none ('\\' :: letter :: rest) = consRead c (readLongBasic? .none rest) := by
  obtain ⟨lower, upper⟩ := not_code_of_escape? stands
  rw [readLongBasic?.eq_def]
  simp [lower, upper, stands]

/-- How a character other than a quote stands in a basic text, which may be long. -/
inductive EscapedChar : Bool → Char → List Char → Prop where
  | letter {long : Bool} {c letter : Char} (stands : escape? letter = some c) :
      EscapedChar long c ['\\', letter]
  | code {long : Bool} {c : Char} (control : isControl c) : EscapedChar long c (hexEscape c)
  | line : EscapedChar true '\n' ['\n']
  | plain {long : Bool} {c : Char} (backslash : c ≠ '\\') (plain : isPlain c) : EscapedChar long c [c]

theorem escapedChar (long : Bool) (c : Char) : EscapedChar long c (escapeChar long c) := by
  unfold escapeChar
  split_ifs with backslash backspace tab line bare feed back control
  · subst backslash
    exact .letter rfl
  · obtain rfl : c = '\x08' := Char.toNat_inj.1 backspace
    exact .letter rfl
  · subst tab
    exact .letter rfl
  · subst line
    rw [bare]
    exact .line
  · subst line
    exact .letter rfl
  · obtain rfl : c = '\x0c' := Char.toNat_inj.1 feed
    exact .letter rfl
  · subst back
    exact .letter rfl
  · exact .code control
  · exact .plain backslash (isPlain_of_not_isControl (Bool.eq_false_iff.2 control) line)

namespace EscapedChar

variable {c : Char} {written : List Char}

theorem readBasic? (escaped : EscapedChar false c written) (quote : c ≠ '"') :
    readBasic? (written ++ rest) = consRead c (readBasic? rest) := by
  cases escaped with
  | letter stands => exact readBasic?_letter stands
  | code control => simp [hexEscape, Toml.readBasic?, charOfHex?_hexDigit control]
  | plain backslash plain => simp [Toml.readBasic?, backslash, plain]

theorem readLongBasic? {long : Bool} (escaped : EscapedChar long c written) (quote : c ≠ '"') :
    readLongBasic? .none (written ++ rest) = consRead c (readLongBasic? .none rest) := by
  cases escaped with
  | letter stands => exact readLongBasic?_letter stands
  | code control =>
      rw [readLongBasic?.eq_def]
      simp [hexEscape, charOfHex?_hexDigit control]
  | line => rfl
  | plain backslash plain =>
      have back : c ≠ '\r' := ne_of_class plain rfl
      have line : c ≠ '\n' := ne_of_class plain rfl
      rw [readLongBasic?.eq_def]
      simp [quote, backslash, back, plain]

theorem exists_cons {long : Bool} (escaped : EscapedChar long c written) (quote : c ≠ '"') :
    ∃ first more, written = first :: more ∧ first ≠ '"' ∧ first ≠ '\r' ∧ (first = '\n' → c = '\n') := by
  cases escaped with
  | letter => exact ⟨_, _, rfl, by decide, by decide, fun same => absurd same (by decide)⟩
  | code => exact ⟨_, _, rfl, by decide, by decide, fun same => absurd same (by decide)⟩
  | line => exact ⟨_, _, rfl, by decide, by decide, id⟩
  | plain _ plain => exact ⟨c, [], rfl, quote, ne_of_class plain rfl, id⟩

end EscapedChar

/-! ## Basic texts -/

theorem readBasic?_escapeText (content : List Char) (quotes : Nat) :
    readBasic? (escapeText false quotes content ++ '"' :: rest) = some (content, rest) := by
  induction content generalizing quotes with
  | nil => simp [escapeText, readBasic?]
  | cons c more ih =>
      by_cases quote : c = '"'
      · subst quote
        simp [escapeText, readBasic?, escape?, ih, consRead]
      · rw [escapeText, if_neg quote, List.append_assoc, (escapedChar false c).readBasic? quote, ih]
        rfl

/-! ## Literal texts -/

theorem readLiteral?_plain {content : List Char} (plain : ∀ c ∈ content, isPlain c)
    (quotes : '\'' ∉ content) : readLiteral? (content ++ '\'' :: rest) = some (content, rest) := by
  induction content with
  | nil => simp [readLiteral?]
  | cons c more ih =>
      obtain ⟨first, others⟩ := List.forall_mem_cons.1 plain
      obtain ⟨quote, later⟩ := List.ne_and_not_mem_of_not_mem_cons quotes
      simp [readLiteral?, Ne.symm quote, first, ih others later, consRead]

/-! ## Long texts -/

/-- How a reader of a long text treats quotes: three of them close the text, and up to two more in front
of these belong to it. -/
structure Closes (quote : Char) (read : List Char → Option (List Char × List Char)) : Prop where
  one (rest : List Char) : rest.head? ≠ some quote → read (quote :: rest) = consRead quote (read rest)
  two (rest : List Char) : rest.head? ≠ some quote →
    read (quote :: quote :: rest) = consRead quote (read (quote :: rest))
  three (rest : List Char) : rest.head? ≠ some quote →
    read (List.replicate 3 quote ++ rest) = some ([], rest)
  four (rest : List Char) : rest.head? ≠ some quote →
    read (List.replicate 4 quote ++ rest) = some ([quote], rest)
  five (rest : List Char) : rest.head? ≠ some quote →
    read (List.replicate 5 quote ++ rest) = some ([quote, quote], rest)

/-- One more quote in front of a text is read as such if no two quotes follow it. -/
theorem Closes.quote {quote : Char} {read : List Char → Option (List Char × List Char)}
    (closes : Closes quote read) {written content : List Char} (ends : rest.head? ≠ some quote)
    (few : ¬ [quote, quote] <+: written)
    (reads : read (written ++ List.replicate 3 quote ++ rest) = some (content, rest)) :
    read (quote :: written ++ List.replicate 3 quote ++ rest) = some (quote :: content, rest) := by
  match written with
  | [] =>
      obtain ⟨rfl, -⟩ := Prod.mk.inj (Option.some.inj ((closes.three rest ends).symm.trans reads))
      exact closes.four rest ends
  | [c] =>
      by_cases same : c = quote
      · subst same
        obtain ⟨rfl, -⟩ := Prod.mk.inj (Option.some.inj ((closes.four rest ends).symm.trans reads))
        exact closes.five rest ends
      · have stop : ([c] ++ List.replicate 3 quote ++ rest).head? ≠ some quote := by simp [same]
        exact (closes.one _ stop).trans (congrArg (consRead quote) reads)
  | c :: d :: more =>
      by_cases same : c = quote
      · subst same
        have other : d ≠ c := by
          rintro rfl
          exact few ⟨more, rfl⟩
        have stop : (d :: more ++ List.replicate 3 c ++ rest).head? ≠ some c := by simp [other]
        exact (closes.two _ stop).trans (congrArg (consRead c) reads)
      · have stop : (c :: d :: more ++ List.replicate 3 quote ++ rest).head? ≠ some quote := by
          simp [same]
        exact (closes.one _ stop).trans (congrArg (consRead quote) reads)

theorem closes_readLongBasic? : Closes '"' (readLongBasic? .none) := by
  constructor
  case five =>
    intro rest _
    rw [readLongBasic?.eq_def]
    simp
  all_goals
    rintro (_ | ⟨c, rest⟩) stop
    · rfl
    · have other : c ≠ '"' := by simpa using stop
      rw [readLongBasic?.eq_def]
      simp [other]

theorem closes_readLongLiteral? : Closes '\'' readLongLiteral? := by
  constructor
  case five =>
    intro rest _
    rw [readLongLiteral?.eq_def]
    simp
  all_goals
    rintro (_ | ⟨c, rest⟩) stop
    · rfl
    · have other : c ≠ '\'' := by simpa using stop
      rw [readLongLiteral?.eq_def]
      simp [other, isPlain]

theorem head?_escapeText {long : Bool} {quotes : Nat} (full : ¬ (long && quotes < 2))
    (content : List Char) : (escapeText long quotes content).head? ≠ some '"' := by
  cases content with
  | nil => simp [escapeText]
  | cons c more =>
      by_cases quote : c = '"'
      · rw [escapeText, if_pos quote, if_neg full]
        simp
      · obtain ⟨first, others, written, other, -⟩ := (escapedChar long c).exists_cons quote
        simp [escapeText, quote, written, other]

theorem not_two_quotes_escapeText {quotes : Nat} (positive : 0 < quotes) (content : List Char) :
    ¬ ['"', '"'] <+: escapeText true quotes content := by
  cases content with
  | nil => simp [escapeText]
  | cons c more =>
      by_cases quote : c = '"'
      · by_cases few : quotes < 2
        · obtain rfl : quotes = 1 := by omega
          have stop : (escapeText true 2 more).head? ≠ some '"' := head?_escapeText (by decide) more
          rintro ⟨others, same⟩
          rw [escapeText, if_pos quote] at same
          rw [← List.tail_eq_of_cons_eq same] at stop
          simp at stop
        · simp [escapeText, quote, few]
      · obtain ⟨first, others, written, other, -⟩ := (escapedChar true c).exists_cons quote
        simp [escapeText, quote, written, Ne.symm other]

theorem readLongBasic?_escapeText (ends : rest.head? ≠ some '"') (content : List Char) (quotes : Nat) :
    readLongBasic? .none (escapeText true quotes content ++ List.replicate 3 '"' ++ rest) =
      some (content, rest) := by
  induction content generalizing quotes with
  | nil => exact closes_readLongBasic?.three rest ends
  | cons c more ih =>
      by_cases quote : c = '"'
      · subst quote
        by_cases few : quotes < 2
        · have bare : escapeText true quotes ('"' :: more) = '"' :: escapeText true (quotes + 1) more := by
            simp [escapeText, few]
          rw [bare]
          exact closes_readLongBasic?.quote ends (not_two_quotes_escapeText quotes.succ_pos more) (ih _)
        · have escaped : escapeText true quotes ('"' :: more) = '\\' :: '"' :: escapeText true 0 more := by
            simp [escapeText, few]
          rw [escaped]
          exact (readLongBasic?_letter rfl).trans (congrArg (consRead '"') (ih 0))
      · rw [escapeText, if_neg quote, List.append_assoc, List.append_assoc, ← List.append_assoc _ _ rest]
        exact ((escapedChar true c).readLongBasic? quote).trans (congrArg (consRead c) (ih 0))

theorem le_longestRun (wanted : Char) (current : Nat) (content : List Char) :
    current ≤ longestRun wanted current content := by
  induction content generalizing current with
  | nil => exact Nat.le_refl current
  | cons c more ih =>
      unfold longestRun
      split_ifs
      · exact Nat.le_trans (Nat.le_succ current) (ih _)
      · exact Nat.le_max_left _ _

theorem readLongLiteral?_char {c : Char} (quote : c ≠ '\'') (fits : isPlain c ∨ c = '\n') :
    readLongLiteral? (c :: rest) = consRead c (readLongLiteral? rest) := by
  obtain plain | rfl := fits
  · have back : c ≠ '\r' := ne_of_class plain rfl
    have line : c ≠ '\n' := ne_of_class plain rfl
    simp [readLongLiteral?, quote, back, plain]
  · rfl

theorem readLongLiteral?_plain (ends : rest.head? ≠ some '\'') {content : List Char} {current : Nat}
    (plain : ∀ c ∈ content, isPlain c ∨ c = '\n') (few : longestRun '\'' current content ≤ 2) :
    readLongLiteral? (content ++ List.replicate 3 '\'' ++ rest) = some (content, rest) := by
  induction content generalizing current with
  | nil => exact closes_readLongLiteral?.three rest ends
  | cons c more ih =>
      obtain ⟨first, others⟩ := List.forall_mem_cons.1 plain
      unfold longestRun at few
      split_ifs at few with quote
      · subst quote
        refine closes_readLongLiteral?.quote ends ?_ (ih others few)
        rintro ⟨later, rfl⟩
        have run := le_longestRun '\'' (current + 3) later
        have same : longestRun '\'' (current + 1) (['\'', '\''] ++ later) =
          longestRun '\'' (current + 3) later := rfl
        omega
      · have reads := ih others (Nat.le_trans (Nat.le_max_right _ _) few)
        exact (readLongLiteral?_char quote first).trans (congrArg (consRead c) reads)

/-! ## The chosen notation -/

theorem skipBreak_start {breaks : Bool} {text : List Char}
    (first : ∃ c more, text = c :: more ∧ c ≠ '\r' ∧ (c = '\n' → breaks)) :
    skipBreak ((if breaks then ['\n'] else []) ++ text) = text := by
  obtain ⟨c, more, rfl, back, line⟩ := first
  cases breaks with
  | true => rfl
  | false =>
      have other : c ≠ '\n' := fun same => Bool.false_ne_true (line same)
      simp [skipBreak, afterBreak?, back, other]

theorem not_two_quotes_closed {quote : Char} {written : List Char} (start : written.head? ≠ some quote)
    (ends : rest.head? ≠ some quote) : ¬ [quote, quote] <+: written ++ quote :: rest := by
  cases written with
  | nil =>
      rintro ⟨more, same⟩
      rw [← List.tail_eq_of_cons_eq same] at ends
      simp at ends
  | cons c others =>
      have other : c ≠ quote := by simpa using start
      simp [Ne.symm other]

theorem readText?_basic {text : List Char} (few : ¬ ['"', '"'] <+: text) :
    readText? ('"' :: text) = readBasic? text := by
  have other (more : List Char) : text ≠ '"' :: '"' :: more := by
    rintro rfl
    exact few ⟨more, rfl⟩
  simp [readText?]

theorem readText?_literal {text : List Char} (few : ¬ ['\'', '\''] <+: text) :
    readText? ('\'' :: text) = readLiteral? text := by
  have other (more : List Char) : text ≠ '\'' :: '\'' :: more := by
    rintro rfl
    exact few ⟨more, rfl⟩
  simp [readText?]

theorem skipBreak_escapeText (content : List Char) :
    skipBreak ((if content.contains '\n' then ['\n'] else []) ++
        (escapeText true 0 content ++ List.replicate 3 '"' ++ rest)) =
      escapeText true 0 content ++ List.replicate 3 '"' ++ rest := by
  refine skipBreak_start ?_
  cases content with
  | nil => exact ⟨_, _, rfl, by decide, fun same => absurd same (by decide)⟩
  | cons c more =>
      by_cases quote : c = '"'
      · subst quote
        exact ⟨_, _, rfl, by decide, fun same => absurd same (by decide)⟩
      · obtain ⟨first, others, written, -, back, line⟩ := (escapedChar true c).exists_cons quote
        rw [escapeText, if_neg quote, written]
        exact ⟨first, _, rfl, back, fun same => by simp [line same]⟩

theorem skipBreak_plain {content : List Char} (plain : ∀ c ∈ content, isPlain c ∨ c = '\n') :
    skipBreak ((if content.contains '\n' then ['\n'] else []) ++
        (content ++ List.replicate 3 '\'' ++ rest)) = content ++ List.replicate 3 '\'' ++ rest := by
  refine skipBreak_start ?_
  cases content with
  | nil => exact ⟨_, _, rfl, by decide, fun same => absurd same (by decide)⟩
  | cons c more =>
      refine ⟨c, _, rfl, ?_, fun same => by simp [same]⟩
      rintro rfl
      exact absurd (plain _ List.mem_cons_self) (by decide)

theorem plain_of_textNotation_eq_literal {content : List Char}
    (chosen : textNotation content = .literal) : (∀ c ∈ content, isPlain c) ∧ '\'' ∉ content := by
  unfold textNotation at chosen
  dsimp only at chosen
  split_ifs at chosen with basic literal
  obtain ⟨⟨controls, quotes⟩, lines⟩ : ((∀ c ∈ content, isControl c = false) ∧ '\'' ∉ content) ∧
      '\n' ∉ content := by simpa using literal
  refine ⟨fun c member => isPlain_of_not_isControl (controls c member) ?_, quotes⟩
  rintro rfl
  exact lines member

theorem plain_of_textNotation_eq_longLiteral {content : List Char}
    (chosen : textNotation content = .longLiteral) :
    (∀ c ∈ content, isPlain c ∨ c = '\n') ∧ longestRun '\'' 0 content ≤ 2 := by
  unfold textNotation at chosen
  dsimp only at chosen
  split_ifs at chosen with basic literal longBasic longLiteral
  obtain ⟨controls, few⟩ : (∀ c ∈ content, isControl c = false) ∧ longestRun '\'' 0 content ≤ 2 := by
    simpa using longLiteral
  refine ⟨fun c member => ?_, few⟩
  by_cases line : c = '\n'
  · exact .inr line
  · exact .inl (isPlain_of_not_isControl (controls c member) line)

theorem readText?_writeText (content : List Char) (double : rest.head? ≠ some '"')
    (single : rest.head? ≠ some '\'') : readText? (writeText content ++ rest) = some (content, rest) := by
  unfold writeText
  cases chosen : textNotation content with
  | basic =>
      have start : (escapeText false 0 content).head? ≠ some '"' := head?_escapeText (by decide) content
      have read := (readText?_basic (not_two_quotes_closed start double)).trans
        (readBasic?_escapeText content 0)
      simpa using read
  | literal =>
      obtain ⟨plain, quotes⟩ := plain_of_textNotation_eq_literal chosen
      have start : content.head? ≠ some '\'' := fun same => quotes (List.mem_of_mem_head? same)
      have read := (readText?_literal (not_two_quotes_closed start single)).trans
        (readLiteral?_plain plain quotes)
      simpa using read
  | longBasic =>
      have read := (congrArg (readLongBasic? .none) (skipBreak_escapeText content)).trans
        (readLongBasic?_escapeText double content 0)
      simpa [readText?] using read
  | longLiteral =>
      obtain ⟨plain, few⟩ := plain_of_textNotation_eq_longLiteral chosen
      have read := (congrArg readLongLiteral? (skipBreak_plain plain)).trans
        (readLongLiteral?_plain single plain few)
      simpa [readText?] using read

end Toml

end HostTypes
