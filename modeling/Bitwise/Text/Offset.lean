/-!
# Byte offsets

Positions in a text count the bytes of its UTF-8 form. A text of several scripts has offsets that
fall inside a character, where it cannot be cut.
-/

namespace Bitwise.Text

/-- The number of bytes of a text in UTF-8. -/
def byteLength : List Char → Nat
  | [] => 0
  | c :: cs => c.utf8Size + byteLength cs

@[simp] theorem byteLength_nil : byteLength [] = 0 := rfl

@[simp] theorem byteLength_cons (c : Char) (cs : List Char) :
    byteLength (c :: cs) = c.utf8Size + byteLength cs := rfl

@[simp] theorem byteLength_append (cs ds : List Char) :
    byteLength (cs ++ ds) = byteLength cs + byteLength ds := by
  induction cs with
  | nil => simp
  | cons c cs ih => simp [ih, Nat.add_assoc]

/-- The offset behind two texts, one after the other. -/
theorem add_byteLength_append (offset : Nat) (cs ds : List Char) :
    offset + byteLength (cs ++ ds) = offset + byteLength cs + byteLength ds := by
  rw [byteLength_append, Nat.add_assoc]

theorem byteLength_pos {c : Char} (cs : List Char) : 0 < byteLength (c :: cs) :=
  Nat.add_pos_left c.utf8Size_pos _

/-- Cuts a text at a byte offset. There is no cut past the end, nor inside a character. -/
def cutAt? : List Char → Nat → Option (List Char × List Char)
  | cs, 0 => some ([], cs)
  | [], _ + 1 => none
  | c :: cs, n + 1 =>
    if c.utf8Size ≤ n + 1 then
      (cutAt? cs (n + 1 - c.utf8Size)).map fun (before, after) => (c :: before, after)
    else none

/-- A text can be cut behind each of its characters. -/
@[simp] theorem cutAt?_byteLength_append (cs ds : List Char) :
    cutAt? (cs ++ ds) (byteLength cs) = some (cs, ds) := by
  induction cs with
  | nil => cases ds <;> rfl
  | cons c cs ih =>
    obtain ⟨n, hn⟩ : ∃ n, byteLength (c :: cs) = n + 1 :=
      Nat.exists_eq_succ_of_ne_zero (Nat.ne_of_gt (byteLength_pos cs))
    have rest : n + 1 - c.utf8Size = byteLength cs := by
      rw [← hn, byteLength_cons, Nat.add_sub_cancel_left]
    have fits : c.utf8Size ≤ n + 1 := by
      rw [← hn]
      exact Nat.le_add_right _ _
    rw [hn, List.cons_append, cutAt?, if_pos fits, rest, ih]
    rfl

/-- A text with another piece in place of the byte at an offset. There is no such text if the byte
    is not a character by itself. -/
def replaceByte? (cs : List Char) (offset : Nat) (piece : List Char) : Option (List Char) :=
  (cutAt? cs offset).bind fun (before, after) =>
    (cutAt? after 1).map fun (_, rest) => before ++ (piece ++ rest)

/-- A character of one byte can be replaced behind any text. -/
theorem replaceByte?_append {c : Char} (hc : c.utf8Size = 1) (before after piece : List Char) :
    replaceByte? (before ++ c :: after) (byteLength before) piece =
      some (before ++ (piece ++ after)) := by
  have one : cutAt? (c :: after) 1 = some ([c], after) := by
    rw [← hc]
    exact cutAt?_byteLength_append [c] after
  simp only [replaceByte?, cutAt?_byteLength_append, Option.bind_some, one, Option.map_some]

/-- A text without the characters at its head that fit, all together, in a number of bytes. -/
def dropBytes : Nat → List Char → List Char
  | _, [] => []
  | count, c :: cs => if c.utf8Size ≤ count then dropBytes (count - c.utf8Size) cs else c :: cs

theorem dropBytes_suffix (count : Nat) (cs : List Char) : dropBytes count cs <:+ cs := by
  induction cs generalizing count with
  | nil => exact List.suffix_rfl
  | cons c cs ih =>
    rw [dropBytes]
    split
    · exact (ih _).trans (List.suffix_cons c cs)
    · exact List.suffix_rfl

/-- Every character has bytes, so that none fits in none. -/
@[simp] theorem dropBytes_zero (cs : List Char) : dropBytes 0 cs = cs := by
  cases cs with
  | nil => rfl
  | cons c cs => simp [dropBytes, Nat.ne_of_gt c.utf8Size_pos]

/-- A beginning goes as a whole if the count is that of its bytes. -/
@[simp] theorem dropBytes_byteLength_append (cs ds : List Char) :
    dropBytes (byteLength cs) (cs ++ ds) = ds := by
  induction cs with
  | nil => simp
  | cons c cs ih => simp [dropBytes, ih]

end Bitwise.Text
