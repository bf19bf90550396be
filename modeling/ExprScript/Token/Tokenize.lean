import ExprScript.Source.Cursor
import ExprScript.Token.Scan

/-!
# The tokens of a source

`Cursor.nextToken` reads one token, skipping white space and comments before it. After an error the
cursor stands behind the characters read, so that reading can go on. `tokenize` reads a whole source
up to and including the end token.
-/

namespace ExprScript

/-- A text that is no token, and where it starts. -/
structure LexError where
  position : Position
  cause : LexCause
deriving DecidableEq, Repr

def LexError.text (e : LexError) : String :=
  e.position.text ++ ": " ++ e.cause.text

namespace Scan

theorem number_width_pos (c : Char) (rest : List Char) (digit : c.isDigit) :
    0 < (number (c :: rest)).width := by
  have whole : (c :: rest).takeWhile Char.isDigit = c :: rest.takeWhile Char.isDigit := by
    simp [digit]
  unfold number number.integer
  rw [whole]
  grind [Scanned.fault]

end Scan

/-- Something is read of every text that is not empty. -/
theorem scan_width_pos (c : Char) (rest : List Char) : 0 < (scan (c :: rest)).width := by
  unfold scan
  split <;> grind [Scan.number_width_pos, Scan.longest, Scanned.token, Scanned.fault,
    Scanned.widen, Scanned.map]

/-- What is not the end token is read from a text that is not empty. -/
theorem scan_width_pos_of_ne_end {text : List Char}
    (h : (scan text).outcome ≠ .ok (some .endOfInput)) : 0 < (scan text).width ∧ text ≠ [] := by
  cases text with
  | nil => exact absurd rfl h
  | cons c rest => exact ⟨scan_width_pos c rest, by simp⟩

namespace Cursor

/-- The cursor behind any white space. -/
def skipBlanks (c : Cursor) : Cursor :=
  c.takeWhile Text.isBlank

theorem length_advance (c : Cursor) (count : Nat) :
    (c.advance count).rest.length = c.rest.length - count := by
  simp [advance]

theorem length_skipBlanks_le (c : Cursor) : c.skipBlanks.rest.length ≤ c.rest.length := by
  simp [skipBlanks, takeWhile, length_advance]

/-- Whatever is read from a text that is not empty leaves less of it. -/
theorem length_behind_lt (c : Cursor)
    (h : (scan c.skipBlanks.rest).outcome ≠ .ok (some .endOfInput)) :
    (c.skipBlanks.advance (scan c.skipBlanks.rest).width).rest.length < c.rest.length := by
  obtain ⟨width, nonempty⟩ := scan_width_pos_of_ne_end h
  have ahead := List.length_pos_iff.2 nonempty
  have skipped := c.length_skipBlanks_le
  rw [length_advance]
  omega

def nextToken (c : Cursor) : Except LexError SpannedToken × Cursor :=
  let before := c.skipBlanks
  let scanned := scan before.rest
  let behind := before.advance scanned.width
  match _comment : scanned.outcome with
  | .ok (some token) => (.ok ⟨token, ⟨before.position, behind.position⟩⟩, behind)
  | .error cause => (.error ⟨before.position, cause⟩, behind)
  | .ok none => behind.nextToken
termination_by c.rest.length
decreasing_by exact c.length_behind_lt (by simp_all [before, scanned])

/-- Reading a token other than the end token moves the cursor. -/
theorem length_nextToken_lt (c : Cursor) {t : SpannedToken} {behind : Cursor}
    (h : c.nextToken = (.ok t, behind)) (inside : t.token ≠ .endOfInput) :
    behind.rest.length < c.rest.length := by
  induction c using nextToken.induct with
  | case1 c before scanned token outcome =>
    rw [nextToken] at h
    grind [length_behind_lt]
  | case2 c before scanned cause outcome =>
    rw [nextToken] at h
    grind
  | case3 c before scanned behind' outcome ih =>
    rw [nextToken] at h
    grind [length_behind_lt]

end Cursor

/-- The tokens from a cursor on, up to and including the end token. -/
def tokensFrom (c : Cursor) : Except LexError (List SpannedToken) :=
  match _read : c.nextToken with
  | (.error e, _) => .error e
  | (.ok t, behind) =>
    if _inside : t.token ≠ .endOfInput then (tokensFrom behind).map (t :: ·) else .ok [t]
termination_by c.rest.length
decreasing_by exact c.length_nextToken_lt _read _inside

def tokenize (source : List Char) : Except LexError (List SpannedToken) :=
  tokensFrom (.ofText source)

end ExprScript
