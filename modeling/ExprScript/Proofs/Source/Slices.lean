import ExprScript.Source.Span

/-!
# Texts of spans

Positions move by the bytes of the text they pass, so the span from behind one text to behind a
longer one is the text between.
-/

namespace ExprScript

/-- How many bytes a text has in UTF-8. -/
def bytes : List Char → Nat
  | [] => 0
  | c :: text => c.utf8Size + bytes text

@[simp] theorem bytes_nil : bytes [] = 0 := rfl

@[simp] theorem bytes_cons (c : Char) (text : List Char) :
    bytes (c :: text) = c.utf8Size + bytes text := rfl

@[simp] theorem bytes_append (left right : List Char) :
    bytes (left ++ right) = bytes left + bytes right := by
  induction left with
  | nil => simp
  | cons c left ih => simp [ih, Nat.add_assoc]

/-- A character has at least one byte. -/
theorem exists_bytes_cons (c : Char) (text : List Char) :
    ∃ count, c.utf8Size + bytes text = count + 1 := by
  have := c.utf8Size_pos
  exact ⟨c.utf8Size + bytes text - 1, by omega⟩

theorem bytes_eq_zero {text : List Char} (h : bytes text = 0) : text = [] := by
  cases text with
  | nil => rfl
  | cons c text =>
    obtain ⟨count, same⟩ := exists_bytes_cons c text
    simp [same] at h

namespace Position

theorem byte_advance (p : Position) (c : Char) : (p.advance c).byte = p.byte + c.utf8Size := by
  unfold advance
  split <;> rfl

theorem byte_after (p : Position) (text : List Char) :
    (p.after text).byte = p.byte + bytes text := by
  induction text generalizing p with
  | nil => simp
  | cons c text ih =>
    rw [after_cons, ih, byte_advance, bytes_cons]
    omega

theorem byte_after_start (text : List Char) : (start.after text).byte = bytes text := by
  rw [byte_after]
  exact Nat.zero_add _

end Position

theorem dropBytes?_bytes (before text : List Char) :
    dropBytes? (bytes before) (before ++ text) = some text := by
  induction before with
  | nil => simp [dropBytes?]
  | cons c before ih =>
    obtain ⟨count, same⟩ := exists_bytes_cons c before
    rw [bytes_cons, same, List.cons_append, dropBytes?, if_pos (by omega), ← same,
      Nat.add_sub_cancel_left, ih]

theorem takeBytes?_bytes (text behind : List Char) :
    takeBytes? (bytes text) (text ++ behind) = some text := by
  induction text with
  | nil => simp [takeBytes?]
  | cons c text ih =>
    obtain ⟨count, same⟩ := exists_bytes_cons c text
    rw [bytes_cons, same, List.cons_append, takeBytes?, if_pos (by omega), ← same,
      Nat.add_sub_cancel_left, ih, Option.map_some]

/-- The span from behind one text to behind the text after it is the text after it. -/
theorem Span.extract?_between (before text behind : List Char) :
    Span.extract? ⟨.after .start before, .after .start (before ++ text)⟩
      (before ++ text ++ behind) = some text := by
  simp only [extract?, Position.byte_after_start, bytes_append, Nat.le_add_right, if_true,
    Nat.add_sub_cancel_left]
  rw [List.append_assoc, dropBytes?_bytes, Option.bind_some, takeBytes?_bytes]

end ExprScript
