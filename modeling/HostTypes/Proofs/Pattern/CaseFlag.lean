import HostTypes.Proofs.Pattern.Anchoring

/-!
Whether a written pattern can be read does not depend on whether case makes a difference. Two modes that
agree but for this read the same pieces and differ in the sets of characters that they denote only; where
these sets are restricted to ASCII, both are.
-/

namespace HostTypes

def PatternMode.setCase (mode : PatternMode) (ignoreCase : Bool) : PatternMode :=
  { mode with ignoreCase }

namespace Pattern

/-- Two readers both fail, or both leave the same rest and their results correspond. -/
def Parallel {α β : Type} (same : α → β → Prop) (first : Option (α × List Char))
    (second : Option (β × List Char)) : Prop :=
  Option.Rel (fun found found' => same found.1 found'.1 ∧ found.2 = found'.2) first second

section

variable {α β γ δ : Type} {same : α → β → Prop} {sameNext : γ → δ → Prop}

theorem parallel_some {a : α} {b : β} (corresponds : same a b) (rest : List Char) :
    Parallel same (some (a, rest)) (some (b, rest)) :=
  .some ⟨corresponds, rfl⟩

theorem parallel_none : Parallel same none none :=
  .none

theorem parallel_of_eq {first second : Option (α × List Char)} (equal : second = first) :
    Parallel Eq first second := by
  subst equal
  cases second with
  | none => exact .none
  | some found => exact .some ⟨rfl, rfl⟩

theorem Parallel.bind {first : Option (α × List Char)} {second : Option (β × List Char)}
    {next : α → List Char → Option (γ × List Char)} {next' : β → List Char → Option (δ × List Char)}
    (parallel : Parallel same first second)
    (later : ∀ a b rest, same a b → Parallel sameNext (next a rest) (next' b rest)) :
    Parallel sameNext (first.bind fun found => next found.1 found.2)
      (second.bind fun found => next' found.1 found.2) := by
  cases parallel with
  | none => exact .none
  | @some found found' both =>
      obtain ⟨corresponds, leaves⟩ := both
      dsimp only [Option.bind_some]
      rw [leaves]
      exact later _ _ _ corresponds

theorem Parallel.map {first : Option (α × List Char)} {second : Option (β × List Char)} {f : α → γ}
    {g : β → δ} (parallel : Parallel same first second)
    (later : ∀ a b, same a b → sameNext (f a) (g b)) :
    Parallel sameNext (first.map fun found => (f found.1, found.2))
      (second.map fun found => (g found.1, found.2)) := by
  cases parallel with
  | none => exact .none
  | some both => exact .some ⟨later _ _ both.1, both.2⟩

theorem parallel_option {first : Option α} {second : Option β} {f : α → γ} {g : β → δ}
    (given : Option.Rel same first second) (later : ∀ a b, same a b → sameNext (f a) (g b))
    (rest : List Char) :
    Parallel sameNext (first.map fun a => (f a, rest)) (second.map fun b => (g b, rest)) := by
  cases given with
  | none => exact .none
  | some corresponds => exact .some ⟨later _ _ corresponds, rfl⟩

theorem isSome_of_rel {first : Option α} {second : Option β} (both : Option.Rel same first second) :
    first.isSome = second.isSome := by
  cases both <;> rfl

theorem rel_bind {first : Option α} {second : Option β} {next : α → Option γ} {next' : β → Option δ}
    (given : Option.Rel same first second)
    (later : ∀ a b, same a b → Option.Rel sameNext (next a) (next' b)) :
    Option.Rel sameNext (first.bind next) (second.bind next') := by
  cases given with
  | none => exact .none
  | some corresponds => exact later _ _ corresponds

end

/-! ## Readers that do not look at case -/

section

variable (mode : PatternMode) (ignoreCase : Bool)

theorem readBraced_setCase (fuel : Nat) (text : List Char) :
    readBraced (mode.setCase ignoreCase) fuel text = readBraced mode fuel text := by
  induction fuel generalizing text with
  | zero => rfl
  | succ fuel ih =>
      simp only [readBraced, ih]
      rfl

theorem readCounted_setCase (count : Nat) (text : List Char) :
    readCounted (mode.setCase ignoreCase) count text = readCounted mode count text := by
  induction count generalizing text with
  | zero => rfl
  | succ count ih =>
      simp only [readCounted, ih]
      rfl

theorem readCode_setCase (count : Nat) (text : List Char) :
    readCode (mode.setCase ignoreCase) count text = readCode mode count text := by
  simp only [readCode, readCodeDigits, readBraced_setCase, readCounted_setCase]
  rfl

theorem readPropertyName_setCase (text : List Char) :
    readPropertyName (mode.setCase ignoreCase) text = readPropertyName mode text := by
  simp only [readPropertyName, readBraced_setCase]
  rfl

theorem readWordEdge_setCase (text : List Char) :
    readWordEdge (mode.setCase ignoreCase) text = readWordEdge mode text := by
  simp only [readWordEdge, readBraced_setCase]
  rfl

theorem cutDashes_setCase (fuel : Nat) (text : List Char) :
    cutDashes (mode.setCase ignoreCase) fuel text = cutDashes mode fuel text := by
  induction fuel generalizing text with
  | zero => rfl
  | succ fuel ih =>
      simp only [cutDashes, ih]
      rfl

theorem openBracket_setCase (text : List Char) :
    openBracket (mode.setCase ignoreCase) text = openBracket mode text := by
  simp only [openBracket, cutDashes_setCase]
  rfl

theorem readBounds_setCase (text : List Char) :
    readBounds (mode.setCase ignoreCase) text = readBounds mode text := by
  simp only [readBounds, readBraced_setCase]
  rfl

end

variable {mode : PatternMode} {ignoreCase : Bool}

/-! ## Sets of characters -/

/-- Where a mode allows ASCII only, both sets keep to it. -/
def BothAllowed (mode : PatternMode) (set set' : CharSet) : Prop :=
  mode.asciiOnly → set.isAscii ∧ set'.isAscii

theorem isAscii_fold {set : CharSet} (restricted : mode.asciiOnly) (ascii : set.isAscii) :
    (mode.fold set).isAscii := by
  unfold PatternMode.fold
  split
  · exact ascii
  · rfl

theorem BothAllowed.fold {set set' : CharSet} (both : BothAllowed mode set set') (ignoreCase : Bool) :
    BothAllowed mode (mode.fold set) ((mode.setCase ignoreCase).fold set') := fun restricted =>
  have restricted' : (mode.setCase ignoreCase).asciiOnly := restricted
  ⟨isAscii_fold restricted (both restricted).1, isAscii_fold restricted' (both restricted).2⟩

theorem BothAllowed.union {first first' second second' : CharSet}
    (both : BothAllowed mode first first') (bothNext : BothAllowed mode second second') :
    BothAllowed mode (first.union second) (first'.union second') := fun restricted => by
  simp [CharSet.isAscii, both restricted, bothNext restricted]

theorem BothAllowed.apply {first first' second second' : CharSet} (operator : SetOperator)
    (both : BothAllowed mode first first') (bothNext : BothAllowed mode second second') :
    BothAllowed mode (operator.apply first second) (operator.apply first' second') := by
  intro restricted
  cases operator <;>
    simp [SetOperator.apply, CharSet.difference, CharSet.symmetricDifference, CharSet.isAscii,
      both restricted, bothNext restricted]

theorem admit?_parallel {set set' : CharSet} (agree : mode.asciiOnly → set.isAscii = set'.isAscii) :
    Option.Rel (BothAllowed mode) (mode.admit? set) ((mode.setCase ignoreCase).admit? set') := by
  have same : (mode.setCase ignoreCase).asciiOnly = mode.asciiOnly := rfl
  unfold PatternMode.admit?
  rw [same]
  cases restricted : mode.asciiOnly with
  | false => exact .some fun only => by simp [restricted] at only
  | true =>
      rw [← agree restricted]
      cases ascii : set.isAscii with
      | false => exact .none
      | true => exact .some fun _ => ⟨ascii, agree restricted ▸ ascii⟩

theorem isAscii_negatedIf_fold (negated : Bool) {set set' : CharSet}
    (both : BothAllowed mode set set') (restricted : mode.asciiOnly) :
    (CharSet.negatedIf negated (mode.fold set)).isAscii =
      (CharSet.negatedIf negated ((mode.setCase ignoreCase).fold set')).isAscii := by
  cases negated with
  | true => rfl
  | false =>
      obtain ⟨ascii, ascii'⟩ := both.fold ignoreCase restricted
      exact ascii.trans ascii'.symm

theorem isAscii_asciiClass? {name : String} {set : CharSet}
    (known : CharSet.asciiClass? name = some set) : set.isAscii := by
  unfold CharSet.asciiClass? at known
  split at known
  all_goals first | cases known; rfl | cases known

/-! ## Escapes and bracket expressions -/

/-- Atoms that stand for the same character, or for sets that both modes allow. -/
inductive SameAtom (mode : PatternMode) : Atom → Atom → Prop
  | literal (c : Char) : SameAtom mode (.literal c) (.literal c)
  | set {set set' : CharSet} (both : BothAllowed mode set set') :
      SameAtom mode (.set set) (.set set')
  | anchor (condition : Anchor) : SameAtom mode (.anchor condition) (.anchor condition)

theorem readProperty_parallel (mode : PatternMode) (ignoreCase negated : Bool) (text : List Char) :
    Parallel (SameAtom mode) (readProperty mode negated text)
      (readProperty (mode.setCase ignoreCase) negated text) := by
  have names := parallel_of_eq (readPropertyName_setCase mode ignoreCase text)
  have allowed (property property' : CharSet × Bool) (rest : List Char)
      (equal : property = property') :
      Parallel (SameAtom mode)
        (if mode.asciiOnly then none
          else some (.set (CharSet.negatedIf (negated != property.2) (mode.fold property.1)), rest))
        (if mode.asciiOnly then none
          else some (.set (CharSet.negatedIf (negated != property'.2)
            ((mode.setCase ignoreCase).fold property'.1)), rest)) := by
    cases restricted : mode.asciiOnly with
    | true => exact .none
    | false => exact parallel_some (.set fun only => by simp [restricted] at only) rest
  have whole := names.bind allowed
  exact whole

theorem readEscaped_parallel (mode : PatternMode) (ignoreCase : Bool) (c : Char) (text : List Char) :
    Parallel (SameAtom mode) (readEscaped mode c text)
      (readEscaped (mode.setCase ignoreCase) c text) := by
  have literal (c c' : Char) (equal : c = c') : SameAtom mode (.literal c) (.literal c') :=
    equal ▸ .literal c
  have code (count : Nat) := (parallel_of_eq (readCode_setCase mode ignoreCase count text)).map literal
  have byte (c c' : Char) (rest : List Char) (equal : c = c') : Parallel (SameAtom mode)
      (if mode.asciiOnly && 0x80 ≤ c.toNat && c.toNat < 0x100 then none else some (.literal c, rest))
      (if mode.asciiOnly && 0x80 ≤ c'.toNat && c'.toNat < 0x100 then none
        else some (.literal c', rest)) := by
    subst equal
    split
    · exact parallel_none
    · exact parallel_some (.literal c) rest
  have bytes := (parallel_of_eq (readCode_setCase mode ignoreCase 2 text)).bind byte
  have named (set : CharSet) : Parallel (SameAtom mode)
      ((mode.admit? set).bind fun set => some (.set set, text))
      (((mode.setCase ignoreCase).admit? set).bind fun set => some (.set set, text)) :=
    rel_bind (admit?_parallel fun _ => rfl) fun _ _ both => parallel_some (.set both) text
  have edge (edge edge' : WordEdge) (rest : List Char) (equal : edge = edge') :
      Parallel (SameAtom mode) (some (.anchor (.word edge mode.wordChars), rest))
        (some (.anchor (.word edge' mode.wordChars), rest)) :=
    equal ▸ parallel_some (.anchor _) rest
  have edges := (parallel_of_eq (readWordEdge_setCase mode ignoreCase text)).bind edge
  unfold readEscaped
  split
  · exact bytes
  · exact code 4
  · exact code 8
  · exact readProperty_parallel _ _ _ _
  · exact readProperty_parallel _ _ _ _
  · exact named _
  · exact named _
  · exact named _
  · exact named _
  · exact named _
  · exact named _
  · exact parallel_some (.anchor _) text
  · exact parallel_some (.anchor _) text
  · exact edges
  · exact edge _ _ _ rfl
  · exact edge _ _ _ rfl
  · exact edge _ _ _ rfl
  · cases plainEscape? c with
    | none => exact parallel_none
    | some c => exact parallel_some (.literal c) text

theorem readEscape_parallel (mode : PatternMode) (ignoreCase : Bool) (text : List Char) :
    Parallel (SameAtom mode) (readEscape mode text) (readEscape (mode.setCase ignoreCase) text) := by
  cases text with
  | nil => exact parallel_none
  | cons c rest => exact readEscaped_parallel mode ignoreCase c rest

theorem readMember_parallel (mode : PatternMode) (ignoreCase : Bool) (text : List Char) :
    Parallel (SameAtom mode) (readMember mode text) (readMember (mode.setCase ignoreCase) text) := by
  unfold readMember
  split
  · exact parallel_none
  · exact readEscape_parallel mode ignoreCase _
  · exact parallel_some (.literal _) _

theorem memberSet?_parallel {atom atom' : Atom} (same : SameAtom mode atom atom') :
    Option.Rel (BothAllowed mode) (memberSet? mode atom)
      (memberSet? (mode.setCase ignoreCase) atom') := by
  cases same with
  | literal c => exact admit?_parallel fun _ => rfl
  | set both => exact .some both
  | anchor condition => exact .none

theorem rangeSet?_parallel {first first' last last' : Atom} (same : SameAtom mode first first')
    (sameLast : SameAtom mode last last') :
    Option.Rel (BothAllowed mode) (rangeSet? mode first last)
      (rangeSet? (mode.setCase ignoreCase) first' last') := by
  cases same with
  | literal c =>
      cases sameLast with
      | literal c' =>
          unfold rangeSet?
          dsimp only
          split
          · exact admit?_parallel fun _ => rfl
          · exact .none
      | set both => exact .none
      | anchor condition => exact .none
  | set both => exact .none
  | anchor condition => exact .none

theorem readRange_parallel (mode : PatternMode) (ignoreCase : Bool) (text : List Char) :
    Parallel (BothAllowed mode) (readRange mode text) (readRange (mode.setCase ignoreCase) text) := by
  have found {set set' : Option CharSet} (both : Option.Rel (BothAllowed mode) set set')
      (rest : List Char) : Parallel (BothAllowed mode) (set.bind fun set => some (set, rest))
        (set'.bind fun set => some (set, rest)) :=
    rel_bind both fun _ _ both => parallel_some both rest
  have range (first first' : Atom) (rest : List Char) (same : SameAtom mode first first') :
      Parallel (BothAllowed mode)
        ((readMember mode rest).bind fun last =>
          (rangeSet? mode first last.1).bind fun set => some (set, last.2))
        ((readMember (mode.setCase ignoreCase) rest).bind fun last =>
          (rangeSet? (mode.setCase ignoreCase) first' last.1).bind fun set => some (set, last.2)) :=
    (readMember_parallel mode ignoreCase rest).bind fun last last' rest sameLast =>
      found (rangeSet?_parallel same sameLast) rest
  have either (first first' : Atom) (rest : List Char) (same : SameAtom mode first first') :
      Parallel (BothAllowed mode)
        (if (takeDash mode rest).1 then
          (readMember mode (takeDash mode rest).2).bind fun last =>
            (rangeSet? mode first last.1).bind fun set => some (set, last.2)
        else (memberSet? mode first).bind fun set => some (set, (takeDash mode rest).2))
        (if (takeDash mode rest).1 then
          (readMember (mode.setCase ignoreCase) (takeDash mode rest).2).bind fun last =>
            (rangeSet? (mode.setCase ignoreCase) first' last.1).bind fun set => some (set, last.2)
        else (memberSet? (mode.setCase ignoreCase) first').bind fun set =>
          some (set, (takeDash mode rest).2)) := by
    split
    · exact range first first' _ same
    · exact found (memberSet?_parallel same) _
  have whole := (readMember_parallel mode ignoreCase text).bind either
  exact whole

theorem readAsciiClass?_parallel (mode : PatternMode) (ignoreCase : Bool) (text : List Char) :
    Parallel (fun set set' => mode.asciiOnly → set.isAscii = set'.isAscii) (readAsciiClass? mode text)
      (readAsciiClass? (mode.setCase ignoreCase) text) := by
  have classed (negated : Bool) (name name' rest : List Char) (same : name = name') :
      Parallel (fun set set' => mode.asciiOnly → set.isAscii = set'.isAscii)
        ((CharSet.asciiClass? (String.ofList name)).bind fun set =>
          some (CharSet.negatedIf negated (mode.fold set), rest))
        ((CharSet.asciiClass? (String.ofList name')).bind fun set =>
          some (CharSet.negatedIf negated ((mode.setCase ignoreCase).fold set), rest)) := by
    subst same
    cases known : CharSet.asciiClass? (String.ofList name) with
    | none => exact parallel_none
    | some set =>
        have ascii := isAscii_asciiClass? known
        exact parallel_some (isAscii_negatedIf_fold negated fun _ => ⟨ascii, ascii⟩) rest
  unfold readAsciiClass?
  split
  · rename_i rest
    have whole := (parallel_of_eq (Eq.refl (cutAt? [':', ']'] (takeMark ['^'] rest).2))).bind
      (classed (takeMark ['^'] rest).1)
    exact whole
  · exact parallel_none

/-- Pieces of bracket expressions that differ in allowed sets at most. -/
inductive SameSetPiece (mode : PatternMode) : SetPiece → SetPiece → Prop
  | close : SameSetPiece mode .close .close
  | operator (operator : SetOperator) : SameSetPiece mode (.operator operator) (.operator operator)
  | members {set set' : CharSet} (both : BothAllowed mode set set') :
      SameSetPiece mode (.members set) (.members set')
  | bracket (negated : Bool) {start : CharSet} (ascii : start.isAscii) :
      SameSetPiece mode (.bracket negated start) (.bracket negated start)

theorem isAscii_openBracket (text : List Char) : (openBracket mode text).1.2.isAscii := by
  unfold openBracket
  dsimp only
  split
  · rfl
  · split <;> rfl

theorem readSetPiece_parallel (mode : PatternMode) (ignoreCase : Bool) (text : List Char) :
    Parallel (SameSetPiece mode) (readSetPiece mode text)
      (readSetPiece (mode.setCase ignoreCase) text) := by
  unfold readSetPiece
  split
  · exact parallel_none
  · exact parallel_some .close _
  · exact parallel_some (.operator _) _
  · exact parallel_some (.operator _) _
  · exact parallel_some (.operator _) _
  · rename_i rest
    rw [openBracket_setCase]
    have class? := readAsciiClass?_parallel mode ignoreCase rest
    generalize readAsciiClass? mode rest = found at class?
    generalize readAsciiClass? (mode.setCase ignoreCase) rest = found' at class?
    cases class? with
    | none => exact parallel_some (.bracket _ (isAscii_openBracket rest)) _
    | @some found found' both =>
        obtain ⟨agree, leaves⟩ := both
        dsimp only
        rw [leaves]
        exact parallel_option (admit?_parallel agree) (fun _ _ both => .members both) _
  · exact (readRange_parallel mode ignoreCase _).map fun _ _ both => .members both

theorem closeBracket?_parallel (ignoreCase negated : Bool) {members members' : CharSet}
    (both : BothAllowed mode members members') :
    Option.Rel (BothAllowed mode) (closeBracket? mode negated members)
      (closeBracket? (mode.setCase ignoreCase) negated members') :=
  admit?_parallel (isAscii_negatedIf_fold negated both)

/-- What waits for its second operand in both modes, with allowed sets. -/
inductive SameWaiting (mode : PatternMode) :
    Option (SetOperator × CharSet) → Option (SetOperator × CharSet) → Prop
  | nothing : SameWaiting mode none none
  | operand (operator : SetOperator) {set set' : CharSet} (both : BothAllowed mode set set') :
      SameWaiting mode (some (operator, set)) (some (operator, set'))

theorem SameWaiting.combine {waiting waiting' : Option (SetOperator × CharSet)}
    {members members' : CharSet} (same : SameWaiting mode waiting waiting')
    (both : BothAllowed mode members members') (ignoreCase : Bool) :
    BothAllowed mode (combine mode waiting members)
      (combine (mode.setCase ignoreCase) waiting' members') := by
  cases same with
  | nothing => exact both
  | operand operator left => exact (left.fold ignoreCase).apply operator (both.fold ignoreCase)

theorem readMembers_parallel (ignoreCase : Bool) (fuel : Nat)
    {waiting waiting' : Option (SetOperator × CharSet)}
    {members members' : CharSet} (same : SameWaiting mode waiting waiting')
    (both : BothAllowed mode members members') (text : List Char) :
    Parallel (BothAllowed mode) (readMembers mode fuel waiting members text)
      (readMembers (mode.setCase ignoreCase) fuel waiting' members' text) := by
  induction fuel generalizing waiting waiting' members members' text with
  | zero => exact parallel_none
  | succ fuel ih =>
      have pieces := readSetPiece_parallel mode ignoreCase (mode.skip text)
      have later (piece piece' : SetPiece) (rest : List Char)
          (samePiece : SameSetPiece mode piece piece') :
          Parallel (BothAllowed mode)
            (afterSetPiece (readMembers mode fuel) mode waiting members piece rest)
            (afterSetPiece (readMembers (mode.setCase ignoreCase) fuel) (mode.setCase ignoreCase)
              waiting' members' piece' rest) := by
        cases samePiece with
        | close => exact parallel_some (same.combine both ignoreCase) rest
        | operator operator =>
            exact ih (.operand operator (same.combine both ignoreCase)) (fun _ => ⟨rfl, rfl⟩) rest
        | members bothNext => exact ih same (both.union bothNext) rest
        | bracket negated ascii =>
            have inner := ih .nothing (fun _ => ⟨ascii, ascii⟩) rest
            have whole := inner.bind fun set set' rest bothInner =>
              rel_bind (closeBracket?_parallel ignoreCase negated bothInner)
                fun closed closed' bothClosed => ih same (both.union bothClosed) rest
            exact whole
      have whole := pieces.bind later
      exact whole

theorem readBracket_parallel (mode : PatternMode) (ignoreCase : Bool) (text : List Char) :
    Parallel (BothAllowed mode) (readBracket mode text)
      (readBracket (mode.setCase ignoreCase) text) := by
  have ascii : (openBracket mode text).1.2.isAscii := isAscii_openBracket text
  have members := readMembers_parallel ignoreCase ((openBracket mode text).2.length + 1) .nothing
    (fun _ => ⟨ascii, ascii⟩ : BothAllowed mode _ _) (openBracket mode text).2
  have whole := members.bind fun set set' rest both =>
    rel_bind (closeBracket?_parallel ignoreCase (openBracket mode text).1.1 both)
      fun closed closed' bothClosed =>
        (parallel_some bothClosed rest : Parallel (BothAllowed mode) (some (closed, rest))
          (some (closed', rest)))
  unfold readBracket
  rw [openBracket_setCase]
  exact whole

/-! ## Groups and pieces -/

theorem set?_setCase (mode : PatternMode) (ignoreCase on : Bool) (c : Char) :
    Option.Rel (fun next next' => ∃ ignoreCase', next' = PatternMode.setCase next ignoreCase')
      (mode.set? on c) ((mode.setCase ignoreCase).set? on c) := by
  unfold PatternMode.set?
  split
  all_goals first | exact .none | exact .some ⟨_, rfl⟩

/-- Flags that differ in whether they make a difference of case at most. -/
def SameFlags (flags flags' : FlagList) : Prop :=
  ∃ ignoreCase, flags' = { flags with mode := flags.mode.setCase ignoreCase }

theorem readFlags_parallel (mode : PatternMode) (ignoreCase : Bool) (seen text : List Char) :
    Parallel SameFlags (readFlags mode seen text)
      (readFlags (mode.setCase ignoreCase) seen text) := by
  induction text generalizing mode ignoreCase seen with
  | nil => exact parallel_none
  | cons c text ih =>
      unfold readFlags
      split
      · split
        · exact parallel_none
        · exact parallel_some ⟨ignoreCase, rfl⟩ text
      · split
        · exact parallel_none
        · split
          · exact ih mode ignoreCase _
          · refine rel_bind (set?_setCase mode ignoreCase _ c) fun next next' same => ?_
            obtain ⟨ignoreCase', rfl⟩ := same
            exact ih next ignoreCase' _

/-- Pieces that differ in sets of characters and in the treatment of case at most. -/
inductive SamePiece : Piece → Piece → Prop
  | part (part part' : Pattern) : SamePiece (.part part) (.part part')
  | bar : SamePiece .bar .bar
  | repetition (bounds : Nat × Option Nat) : SamePiece (.repetition bounds) (.repetition bounds)
  | flags (mode : PatternMode) (ignoreCase : Bool) :
      SamePiece (.flags mode) (.flags (mode.setCase ignoreCase))
  | group (mode : PatternMode) (ignoreCase : Bool) (names : List String) :
      SamePiece (.group mode names) (.group (mode.setCase ignoreCase) names)

theorem readGroupHead_parallel (mode : PatternMode) (ignoreCase : Bool) (names : List String)
    (text : List Char) :
    Parallel SamePiece (readGroupHead mode names text)
      (readGroupHead (mode.setCase ignoreCase) names text) := by
  have group (taken taken' : List String) (rest : List Char) (same : taken = taken') :
      Parallel SamePiece (some (.group mode taken, rest))
        (some (.group (mode.setCase ignoreCase) taken', rest)) :=
    same ▸ parallel_some (.group mode ignoreCase taken) rest
  have named (rest : List Char) :=
    (parallel_of_eq (Eq.refl (readGroupName names rest))).bind group
  have flags (flags flags' : FlagList) (rest : List Char) (same : SameFlags flags flags') :
      Parallel SamePiece
        (if flags.last == ':' then some (.group flags.mode names, rest)
          else if flags.isEmpty then none else some (.flags flags.mode, rest))
        (if flags'.last == ':' then some (.group flags'.mode names, rest)
          else if flags'.isEmpty then none else some (.flags flags'.mode, rest)) := by
    obtain ⟨ignoreCase', rfl⟩ := same
    dsimp only
    split
    · exact parallel_some (.group _ _ _) rest
    · split
      · exact parallel_none
      · exact parallel_some (.flags _ _) rest
  have flagged (rest : List Char) := (readFlags_parallel mode ignoreCase [] rest).bind flags
  have skip : (mode.setCase ignoreCase).skip text = mode.skip text := rfl
  unfold readGroupHead
  rw [skip]
  dsimp only
  split
  · exact group names names _ rfl
  · split
    · exact named _
    · exact flagged _

theorem readPiece_parallel (mode : PatternMode) (ignoreCase : Bool) (names : List String) (c : Char)
    (text : List Char) :
    Parallel SamePiece (readPiece mode names c text)
      (readPiece (mode.setCase ignoreCase) names c text) := by
  have repetition (bounds bounds' : Nat × Option Nat) (same : bounds = bounds') :
      SamePiece (.repetition bounds) (.repetition bounds') :=
    same ▸ .repetition bounds
  have bracket (set set' : CharSet) (_ : BothAllowed mode set set') :
      SamePiece (.part (char set)) (.part (char set')) := .part _ _
  have escape (atom atom' : Atom) (_ : SameAtom mode atom atom') :
      SamePiece (.part (ofAtom mode atom)) (.part (ofAtom (mode.setCase ignoreCase) atom')) :=
    .part _ _
  unfold readPiece
  split
  · exact parallel_some .bar _
  · exact readGroupHead_parallel mode ignoreCase names text
  · exact parallel_some (.repetition _) _
  · exact parallel_some (.repetition _) _
  · exact parallel_some (.repetition _) _
  · exact (parallel_of_eq (readBounds_setCase mode ignoreCase text)).map repetition
  · exact (readBracket_parallel mode ignoreCase text).map bracket
  · exact (readEscape_parallel mode ignoreCase text).map escape
  · exact rel_bind (admit?_parallel fun _ => rfl) fun _ _ _ => parallel_some (.part _ _) text
  · exact parallel_some (.part _ _) _
  · exact parallel_some (.part _ _) _
  · exact parallel_some (.part _ _) _

/-! ## Whole patterns -/

/-- As much has been read, and repetitions are possible in the same places. -/
def SameProgress (progress progress' : Progress) : Prop :=
  progress.parts.map Option.isSome = progress'.parts.map Option.isSome

theorem repeat?_parallel {progress progress' : Progress} (same : SameProgress progress progress')
    (bounds : Nat × Option Nat) :
    Option.Rel SameProgress (progress.repeat? bounds) (progress'.repeat? bounds) := by
  obtain ⟨alternatives, parts⟩ := progress
  obtain ⟨alternatives', parts'⟩ := progress'
  unfold SameProgress at same
  unfold Progress.repeat?
  dsimp only at same ⊢
  cases parts with
  | nil =>
      obtain rfl := List.map_eq_nil_iff.1 same.symm
      exact .none
  | cons part parts =>
      cases parts' with
      | nil => cases same
      | cons part' parts' =>
          obtain ⟨sameHead, sameRest⟩ := List.cons.inj same
          cases part with
          | none =>
              obtain rfl := Option.isNone_iff_eq_none.1 (by simpa using sameHead.symm)
              exact .none
          | some part =>
              obtain ⟨part', rfl⟩ := Option.isSome_iff_exists.1 sameHead.symm
              exact .some (congrArg (true :: ·) sameRest)

theorem readBody_parallel (ignoreCase : Bool) {mode : PatternMode} {names : List String}
    {progress progress' : Progress} (fuel : Nat) (grouped : Bool) (text : List Char)
    (same : SameProgress progress progress') :
    Option.Rel (fun found found' => found.2 = found'.2)
      (readBody fuel grouped mode names progress text)
      (readBody fuel grouped (mode.setCase ignoreCase) names progress' text) := by
  induction fuel generalizing grouped mode ignoreCase names progress progress' text with
  | zero => exact .none
  | succ fuel ih =>
      have later (piece piece' : Piece) (rest : List Char) (samePiece : SamePiece piece piece') :
          Option.Rel (fun found found' => found.2 = found'.2)
            (afterPiece (readBody fuel) grouped mode names progress piece rest)
            (afterPiece (readBody fuel) grouped (mode.setCase ignoreCase) names progress' piece'
              rest) := by
        cases samePiece with
        | part part part' => exact ih _ _ _ (congrArg (true :: ·) same)
        | bar => exact ih _ _ _ rfl
        | repetition bounds =>
            exact rel_bind (repeat?_parallel same bounds) fun _ _ repeated => ih _ _ _ repeated
        | flags inner ignoreCase' => exact ih _ _ _ (congrArg (false :: ·) same)
        | group inner ignoreCase' taken =>
            refine rel_bind (ih ignoreCase' true rest rfl) fun found found' ends => ?_
            obtain ⟨part, taken, rest⟩ := found
            obtain ⟨part', _, _⟩ := found'
            obtain ⟨rfl, rfl⟩ := ends
            exact ih _ _ _ (congrArg (true :: ·) same)
      have skip : (mode.setCase ignoreCase).skip text = mode.skip text := rfl
      unfold readBody
      rw [skip]
      split
      · split
        · exact .none
        · exact .some rfl
      · split
        · exact .some rfl
        · exact .none
      · rename_i c rest _ _
        refine rel_bind (readPiece_parallel mode ignoreCase names c rest) fun found found' both => ?_
        obtain ⟨piece, left⟩ := found
        obtain ⟨piece', _⟩ := found'
        obtain ⟨samePiece, rfl⟩ := both
        exact later piece piece' left samePiece

theorem isSome_caseless? (text : List Char) : (caseless? text).isSome = (read? text).isSome := by
  have same : Option.Rel (fun found found' => found.2 = found'.2)
      (readBody (text.length + 1) false {} [] {} text)
      (readBody (text.length + 1) false { ignoreCase := true } [] {} text) :=
    readBody_parallel true _ _ _ rfl
  rw [caseless?, read?, Option.isSome_map, Option.isSome_map]
  exact (isSome_of_rel same).symm

end Pattern

end HostTypes
