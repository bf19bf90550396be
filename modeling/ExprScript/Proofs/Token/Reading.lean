import ExprScript.Proofs.Token.Spellings

/-!
# The lexical grammar

The tokens that texts are in front of other texts. A token is scanned of a text exactly when a
first part of it reads as this token in front of the rest, and then as many characters are scanned
as the part has. What follows matters only where the lexeme could go on, so the rest may be cut off
anywhere, and may go on otherwise behind white space.
-/

namespace ExprScript

/-- The characters with which a sign goes on to be another sign or a comment. -/
def Sign.continuations : Sign → List Char
  | .ampersand => ['&']
  | .pipe => ['|']
  | .question => [':']
  | .less | .greater => ['=']
  | .equals | .bang => ['=', '~']
  | .slash => ['/', '*']
  | _ => []

namespace Scan

/-- The text does not go on with a character of this kind. -/
def Stops (p : Char → Bool) (text : List Char) : Prop := ∀ c ∈ text.head?, p c = false

/-- The text, a closing quote at its end included, is the inside of a string in these quotes,
whatever stands behind it. -/
def IsInside (quote : Char) (inside s : List Char) : Prop :=
  ∀ behind, string quote (inside ++ behind) = ⟨.ok s, inside.length⟩

/-- `Reads lexeme t rest`: the text `lexeme` in front of `rest` is the token `t`. -/
inductive Reads : List Char → Token → List Char → Prop where
  | punctuation (mark : Punctuation) (rest : List Char) :
      Reads mark.text.toList (.punctuation mark) rest
  | sign (operator : Sign) {rest : List Char}
      (ends : Stops operator.continuations.contains rest) :
      Reads operator.text.toList (.sign operator) rest
  | string {quote : Char} {inside s : List Char} (rest : List Char)
      (mark : quote = '"' ∨ quote = '\'') (closed : IsInside quote inside s) :
      Reads (quote :: inside) (.string (String.ofList s)) rest
  | integer {digits rest : List Char} {n : Int64} (all : IsDigits digits)
      (read : Integer.read? digits = some n) (ends : Stops Char.isDigit rest)
      (noFraction : ∀ more, rest = '.' :: more → Stops Char.isDigit more) :
      Reads digits (.integer n) rest
  | float {whole fraction rest : List Char} {x : Float} (all : IsDigits whole)
      (all' : IsDigits fraction) (read : Double.read? (whole ++ '.' :: fraction) = some x)
      (ends : Stops Char.isDigit rest) :
      Reads (whole ++ '.' :: fraction) (.float x) rest
  | word {c : Char} {parts rest : List Char} (start : isNameStart c = true)
      (all : ∀ part ∈ parts, isNamePart part = true) (ends : Stops isNamePart rest) :
      Reads (c :: parts) (word (String.ofList (c :: parts))) rest

theorem Stops.nil {p : Char → Bool} : Stops p [] := by simp [Stops]

/-- A run of characters of a kind is taken up to where they stop. -/
theorem Stops.takeWhile_append {p : Char → Bool} {text rest : List Char} (ends : Stops p rest)
    (all : ∀ c ∈ text, p c = true) :
    (text ++ rest).takeWhile p = text ∧ (text ++ rest).dropWhile p = rest := by
  rw [List.takeWhile_append_of_pos all, List.dropWhile_append_of_pos all]
  cases rest with
  | nil => exact ⟨List.append_nil text, rfl⟩
  | cons c rest =>
    have other : p c = false := ends c rfl
    simp [other]

theorem stops_dropWhile (p : Char → Bool) (text : List Char) : Stops p (text.dropWhile p) := by
  intro c first
  have := List.head?_dropWhile_not p text
  rw [Option.mem_def.1 first] at this
  simpa using this

/-! ### Every lexeme is scanned -/

theorem isDigit_point : Char.isDigit '.' = false := rfl

theorem number_of_integer {digits rest : List Char} {n : Int64} (all : IsDigits digits)
    (read : Integer.read? digits = some n) (ends : Stops Char.isDigit rest)
    (noFraction : ∀ more, rest = '.' :: more → Stops Char.isDigit more) :
    number (digits ++ rest) = ⟨.ok (.integer n), digits.length⟩ := by
  obtain ⟨taken, left⟩ := ends.takeWhile_append all.2
  have whole : number.integer digits = ⟨.ok (.integer n), digits.length⟩ := by
    simp [number.integer, read]
  rw [number, taken, left]
  split
  · rename_i digit more
    have other : digit.isDigit = false := noFraction _ rfl digit rfl
    rw [if_neg (by simp [other])]
    exact whole
  · exact whole

theorem number_of_float {whole fraction rest : List Char} {x : Float} (all : IsDigits whole)
    (all' : IsDigits fraction) (read : Double.read? (whole ++ '.' :: fraction) = some x)
    (ends : Stops Char.isDigit rest) :
    number (whole ++ '.' :: fraction ++ rest) =
      ⟨.ok (.float x), (whole ++ '.' :: fraction).length⟩ := by
  obtain ⟨c, more, rfl, digit⟩ := all'.starts
  have point : Stops Char.isDigit ('.' :: (c :: more ++ rest)) := by
    rintro _ ⟨⟩
    exact isDigit_point
  obtain ⟨taken, left⟩ := point.takeWhile_append all.2
  obtain ⟨taken', -⟩ := ends.takeWhile_append all'.2
  rw [List.append_assoc, List.cons_append, number, taken, left]
  simp only [List.cons_append] at taken' ⊢
  rw [if_pos digit, taken', read]

theorem scan_of_sign (operator : Sign) {rest : List Char}
    (ends : Stops operator.continuations.contains rest) :
    scan (operator.text.toList ++ rest) = .token (.sign operator) operator.text.toList.length := by
  cases rest with
  | nil => cases operator <;> rfl
  | cons c rest =>
    have other : operator.continuations.contains c = false := ends c rfl
    cases operator <;> simp [Sign.continuations] at other <;>
      simp [Sign.text, scan, longest, other]

theorem scan_of_reads {lexeme rest : List Char} {t : Token} (h : Reads lexeme t rest) :
    scan (lexeme ++ rest) = .token t lexeme.length := by
  cases h with
  | punctuation mark => cases mark <;> rfl
  | sign operator ends => exact scan_of_sign operator ends
  | string rest mark closed =>
    have inner := closed rest
    rcases mark with rfl | rfl <;>
      simp [scan, inner, Scanned.map, Scanned.widen, Scanned.token, Except.map, Nat.add_comm]
  | integer all read ends noFraction =>
    rw [all.scan_eq, number_of_integer all read ends noFraction]
    rfl
  | float all all' read ends =>
    rw [List.append_assoc, all.scan_eq, ← List.append_assoc,
      number_of_float all all' read ends]
    rfl
  | word start all ends =>
    obtain ⟨taken, -⟩ := ends.takeWhile_append all
    rw [List.cons_append, scan_of_isNameStart _ start, taken]

/-! ### Whatever is scanned is a lexeme -/

/-- No quote is a backslash. -/
theorem ne_backslash {quote : Char} (mark : quote = '"' ∨ quote = '\'') : '\\' ≠ quote := by
  rcases mark with rfl | rfl <;> decide

theorem StringSpelling.isInside {quote : Char} {inside s : List Char} (other : '\\' ≠ quote)
    (h : StringSpelling quote inside s) : IsInside quote (inside ++ [quote]) s := by
  intro behind
  rw [List.append_assoc, List.singleton_append, string_of_spelling other h, List.length_append]
  rfl

/-- Whatever token `s` found in the text was read of its first characters. -/
def Leads (text : List Char) (s : Scanned (Option Token)) : Prop :=
  ∀ t, s.outcome = .ok (some t) → ∃ lexeme rest,
    text = lexeme ++ rest ∧ lexeme.length = s.width ∧ Reads lexeme t rest

theorem leads_of_reads {text : List Char} (lexeme rest : List Char) {t : Token} {width : Nat}
    (split : text = lexeme ++ rest) (length : lexeme.length = width) (h : Reads lexeme t rest) :
    Leads text (.token t width) := by
  intro t' found
  obtain rfl : t = t' := by simpa [Scanned.token] using found
  exact ⟨lexeme, rest, split, length, h⟩

theorem leads_none (text : List Char) (width : Nat) : Leads text ⟨.ok none, width⟩ := by
  intro t found
  simp at found

theorem leads_fault (text : List Char) (cause : LexCause) (width : Nat) :
    Leads text (.fault cause width) := by
  intro t found
  simp [Scanned.fault] at found

theorem leads_punctuation (mark : Punctuation) {c : Char} (rest : List Char)
    (text : mark.text.toList = [c]) : Leads (c :: rest) (.token (.punctuation mark) 1) :=
  leads_of_reads [c] rest rfl rfl (text ▸ .punctuation mark rest)

theorem leads_sign (operator : Sign) {c : Char} {rest : List Char}
    (text : operator.text.toList = [c]) (ends : Stops operator.continuations.contains rest) :
    Leads (c :: rest) (.token (.sign operator) 1) :=
  leads_of_reads [c] rest rfl rfl (text ▸ .sign operator ends)

/-- A sign that could go on with one of two characters, and goes on with neither. -/
theorem leads_short (operator : Sign) {c next next' : Char} {rest : List Char}
    (text : operator.text.toList = [c]) (goesOn : operator.continuations = [next, next'])
    (other : ∀ more, rest ≠ next :: more) (other' : ∀ more, rest ≠ next' :: more) :
    Leads (c :: rest) (.token (.sign operator) 1) := by
  refine leads_sign operator text fun first ahead => ?_
  obtain ⟨more, rfl⟩ := List.head?_eq_some_iff.1 ahead
  have : first ≠ next := by
    rintro rfl
    exact other more rfl
  have : first ≠ next' := by
    rintro rfl
    exact other' more rfl
  simp [*]

/-- A sign of two characters ends wherever it stands. -/
theorem leads_sign₂ (operator : Sign) {c next : Char} (rest : List Char)
    (text : operator.text.toList = [c, next]) (complete : operator.continuations = []) :
    Leads (c :: next :: rest) (.token (.sign operator) 2) := by
  refine leads_of_reads [c, next] rest rfl rfl (text ▸ .sign operator ?_)
  simp [Stops, complete]

theorem leads_longest {c next : Char} {long short : Sign} (rest : List Char)
    (text : long.text.toList = [c, next]) (complete : long.continuations = [])
    (text' : short.text.toList = [c]) (goesOn : short.continuations = [next]) :
    Leads (c :: rest) (longest next long short rest) := by
  unfold longest
  split
  · rename_i ahead
    obtain ⟨more, rfl⟩ := List.head?_eq_some_iff.1 ahead
    exact leads_sign₂ long more text complete
  · rename_i other
    refine leads_sign short text' fun c ahead => ?_
    rw [goesOn, List.contains_cons, List.contains_nil, Bool.or_false, beq_eq_false_iff_ne]
    rintro rfl
    exact other ahead

theorem leads_string {quote : Char} (rest : List Char) (mark : quote = '"' ∨ quote = '\'') :
    Leads (quote :: rest)
      (((string quote rest).map fun s => some (.string (String.ofList s))).widen 1) := by
  intro t found
  cases read : (string quote rest).outcome with
  | error cause => simp [Scanned.widen, Scanned.map, read, Except.map] at found
  | ok s =>
    obtain rfl : Token.string (String.ofList s) = t := by
      simpa [Scanned.widen, Scanned.map, read, Except.map] using found
    have other := ne_backslash mark
    obtain ⟨inside, behind, rfl, width, spelling⟩ := decodes other rest s read
    refine ⟨quote :: (inside ++ [quote]), behind, by simp, ?_,
      .string behind mark (spelling.isInside other)⟩
    simp only [List.length_cons, List.length_append, List.length_nil, Scanned.widen, Scanned.map,
      ← width]
    omega

theorem leads_number {text : List Char} (digit : IsDigits (text.takeWhile Char.isDigit)) :
    Leads text ((number text).map some) := by
  have split := (List.takeWhile_append_dropWhile (p := Char.isDigit) (l := text)).symm
  have ends := stops_dropWhile Char.isDigit text
  have integers (noFraction : ∀ more, text.dropWhile Char.isDigit = '.' :: more →
      Stops Char.isDigit more) :
      Leads text ((number.integer (text.takeWhile Char.isDigit)).map some) := by
    unfold number.integer
    split
    · rename_i n read
      exact leads_of_reads _ _ split rfl (.integer digit read ends noFraction)
    · exact leads_fault _ _ _
  simp only [number]
  split
  · rename_i digit' rest behind
    split
    · rename_i more
      have all : IsDigits ((digit' :: rest).takeWhile Char.isDigit) :=
        ⟨by simp [more], List.all_eq_true.1 List.all_takeWhile⟩
      split
      · rename_i x read
        refine leads_of_reads _ _ ?_ rfl
          (.float digit all read (stops_dropWhile Char.isDigit (digit' :: rest)))
        rw [List.append_assoc, List.cons_append, List.takeWhile_append_dropWhile, ← behind]
        exact split
      · exact leads_fault _ _ _
    · rename_i other
      refine integers fun more same => ?_
      obtain rfl : digit' :: rest = more := by simpa [behind] using same
      rintro _ ⟨⟩
      simpa using other
  · rename_i other
    refine integers fun more same => ?_
    cases more with
    | nil => simp [Stops]
    | cons c more => exact absurd same (other c more)

theorem leads_word {c : Char} (rest : List Char) (start : isNameStart c = true) :
    Leads (c :: rest) (.token (word (String.ofList (c :: rest.takeWhile isNamePart)))
      (c :: rest.takeWhile isNamePart).length) :=
  leads_of_reads _ _
    (by rw [List.cons_append, List.takeWhile_append_dropWhile]) rfl
    (.word start (List.all_eq_true.1 List.all_takeWhile) (stops_dropWhile isNamePart rest))

theorem leads_scan {c : Char} (rest : List Char) : Leads (c :: rest) (scan (c :: rest)) := by
  simp only [scan]
  split
  -- comments, and the signs that go on with one of two characters
  case h_17 =>
    split
    · exact leads_none _ _
    · exact leads_fault _ _ _
  case h_18 =>
    split
    · exact leads_none _ _
    · split
      · exact leads_none _ _
      · exact leads_fault _ _ _
    · rename_i noLine noBlock
      exact leads_short .slash rfl rfl noLine noBlock
  case h_24 =>
    split
    · exact leads_sign₂ .doubleEq _ rfl rfl
    · exact leads_sign₂ .eqTilde _ rfl rfl
    · rename_i noEquals noTilde
      exact leads_short .equals rfl rfl noEquals noTilde
  case h_25 =>
    split
    · exact leads_sign₂ .bangEq _ rfl rfl
    · exact leads_sign₂ .bangTilde _ rfl rfl
    · rename_i noEquals noTilde
      exact leads_short .bang rfl rfl noEquals noTilde
  case h_26 => exact leads_string rest (.inl rfl)
  case h_27 => exact leads_string rest (.inr rfl)
  case h_28 =>
    split
    · rename_i digit
      have all : IsDigits ((c :: rest).takeWhile Char.isDigit) :=
        ⟨by simp [digit], List.all_eq_true.1 List.all_takeWhile⟩
      exact leads_number all
    · split
      · rename_i start
        exact leads_word rest start
      · exact leads_fault _ _ _
  all_goals first
    | exact leads_punctuation _ _ rfl
    | exact leads_longest rest rfl rfl rfl rfl
    | exact leads_sign _ rfl (by simp [Stops, Sign.continuations])

/-- A token is scanned of a text exactly when the text starts with a lexeme of it. -/
theorem scan_eq_token_iff {text : List Char} {t : Token} {width : Nat} (nonempty : text ≠ []) :
    scan text = .token t width ↔
      ∃ lexeme rest, text = lexeme ++ rest ∧ lexeme.length = width ∧ Reads lexeme t rest := by
  constructor
  · intro scanned
    obtain ⟨c, rest, rfl⟩ := List.exists_cons_of_ne_nil nonempty
    obtain ⟨lexeme, behind, split, length, reads⟩ := leads_scan rest t (by rw [scanned]; rfl)
    exact ⟨lexeme, behind, split, by rw [length, scanned]; rfl, reads⟩
  · rintro ⟨lexeme, rest, rfl, rfl, reads⟩
    exact scan_of_reads reads

/-! ### What stands behind a lexeme -/

theorem not_isBlank_of_isNamePart {c : Char} (h : isNamePart c = true) :
    Text.isBlank c = false := by
  rcases Bool.or_eq_true_iff.1 h with start | numeric
  · exact not_isBlank_of_isNameStart start
  · cases blank : Text.isBlank c with
    | false => rfl
    | true =>
      by_cases ascii : c.toNat < 128
      · have digit : c.isDigit = true := by simpa [Text.isNumeric, ascii] using numeric
        simp [Text.not_isBlank_of_isDigit digit] at blank
      · have none : ∀ code ∈ highBlanks, Text.numericRanges.contains code = false := by
          decide +kernel
        simp [Text.isNumeric, ascii, none _ (mem_highBlanks blank ascii)] at numeric

/-- `Cut rest other`: the text `other` goes on as `rest` does, and then ends or goes on with white
space. -/
inductive Cut : List Char → List Char → Prop where
  | stop {rest other : List Char} (blank : ∀ c ∈ other.head?, Text.isBlank c = true) :
      Cut rest other
  | same (c : Char) {rest other : List Char} (later : Cut rest other) :
      Cut (c :: rest) (c :: other)

theorem Cut.of_isPrefix {rest other : List Char} (h : other <+: rest) : Cut rest other := by
  induction other generalizing rest with
  | nil => exact .stop (by simp)
  | cons c other ih =>
    obtain ⟨behind, rfl⟩ := h
    exact .same c (ih (List.prefix_append other behind))

/-- A text can go on behind its end with white space. -/
theorem Cut.append {other : List Char} (rest : List Char)
    (blank : ∀ c ∈ other.head?, Text.isBlank c = true) : Cut rest (rest ++ other) := by
  induction rest with
  | nil => exact .stop blank
  | cons c rest ih => exact .same c ih

theorem Stops.cut {p : Char → Bool} {rest other : List Char} (ends : Stops p rest)
    (dark : ∀ c, Text.isBlank c = true → p c = false) (cut : Cut rest other) : Stops p other := by
  cases cut with
  | stop blank => exact fun c first => dark c (blank c first)
  | same c later => exact ends

theorem not_of_isBlank {p : Char → Bool} (h : ∀ {c}, p c = true → Text.isBlank c = false) (c : Char)
    (blank : Text.isBlank c = true) : p c = false := by
  cases taken : p c with
  | false => rfl
  | true => exact absurd blank (by simp [h taken])

theorem continuations_of_isBlank (operator : Sign) (c : Char) (blank : Text.isBlank c = true) :
    operator.continuations.contains c = false := by
  refine not_of_isBlank (fun {c} goesOn => ?_) c blank
  cases operator <;> simp [Sign.continuations] at goesOn <;>
    first
    | (subst goesOn; rfl)
    | (rcases goesOn with rfl | rfl <;> rfl)

/-- A lexeme stays one when what stands behind it is cut off or goes on otherwise behind white
space. -/
theorem Reads.cut {lexeme rest other : List Char} {t : Token} (h : Reads lexeme t rest)
    (cut : Cut rest other) : Reads lexeme t other := by
  cases h with
  | punctuation mark => exact .punctuation mark other
  | sign operator ends => exact .sign operator (ends.cut (continuations_of_isBlank operator) cut)
  | string rest mark closed => exact .string other mark closed
  | integer all read ends noFraction =>
    have digits := not_of_isBlank Text.not_isBlank_of_isDigit
    refine .integer all read (ends.cut digits cut) ?_
    rintro more rfl
    cases cut with
    | stop blank => exact absurd (blank '.' rfl) (by decide)
    | same c later => exact (noFraction _ rfl).cut digits later
  | float all all' read ends =>
    exact .float all all' read (ends.cut (not_of_isBlank Text.not_isBlank_of_isDigit) cut)
  | word start all ends =>
    exact .word start all (ends.cut (not_of_isBlank not_isBlank_of_isNamePart) cut)

/-- A lexeme starts with a character that is not white space. -/
theorem Reads.starts {lexeme rest : List Char} {t : Token} (h : Reads lexeme t rest) :
    ∃ c more, lexeme = c :: more ∧ Text.isBlank c = false := by
  cases h with
  | punctuation mark => cases mark <;> exact ⟨_, _, rfl, rfl⟩
  | sign operator => cases operator <;> exact ⟨_, _, rfl, rfl⟩
  | string rest mark => rcases mark with rfl | rfl <;> exact ⟨_, _, rfl, rfl⟩
  | integer all =>
    obtain ⟨c, more, rfl, digit⟩ := all.starts
    exact ⟨c, more, rfl, Text.not_isBlank_of_isDigit digit⟩
  | float all =>
    obtain ⟨c, more, rfl, digit⟩ := all.starts
    exact ⟨c, _, rfl, Text.not_isBlank_of_isDigit digit⟩
  | word start => exact ⟨_, _, rfl, not_isBlank_of_isNameStart start⟩

theorem Reads.ne_nil {lexeme rest : List Char} {t : Token} (h : Reads lexeme t rest) :
    lexeme ≠ [] := by
  obtain ⟨c, more, rfl, -⟩ := h.starts
  simp

theorem Reads.ne_end {lexeme rest : List Char} {t : Token} (h : Reads lexeme t rest) :
    t ≠ .endOfInput := by
  cases h with
  | word => exact word_ne_end _
  | _ => simp

end Scan

end ExprScript
