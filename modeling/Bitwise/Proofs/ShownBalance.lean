import Bitwise.Proofs.Highlighting
import Bitwise.Session.Balance

/-!
# The balance of a line in its colours

Whether a line is handed over is decided by counting its parentheses up to the first that closes
nothing. Its colours are decided by a stack that goes on to the end of the line. The two never
disagree (`Session.highlight_agrees_with_balance`): a line is balanced if no parenthesis is red,
incomplete if only opening ones are, and otherwise the first closing one that is red is the one
that closes nothing.

The count is the height of the stack. So the induction says, for the rest of a text, what its
colours and those of the parentheses on the stack make of the balance (`Session.ColoursSay`).
-/

namespace Bitwise.Session

open Text (byteLength)

/-! ## Colours told from the text -/

section Unique

variable {c : Char} {colour colour' : Colour} {xs ys : List Char}

theorem Glyph.exists_text_blue (c : Char) :
    ∃ ds, (Glyph.mk c .blue).text = '\x1b' :: '[' :: '1' :: ds :=
  ⟨";34m".toList ++ c :: "\x1b[0m".toList, by simp [text, Colour.escapes]⟩

theorem Glyph.exists_text_red (c : Char) :
    ∃ ds, (Glyph.mk c .red).text = '\x1b' :: '[' :: '3' :: ds :=
  ⟨"1m".toList ++ c :: "\x1b[0m".toList, by simp [text, Colour.escapes]⟩

theorem Glyph.text_plain (c : Char) : (Glyph.mk c .plain).text = [c] := by
  simp [text, Colour.escapes]

/-- The colour of a parenthesis can be told from what is written for it, whatever follows. -/
theorem eq_of_text_append_eq (hc : isParen c = true)
    (h : (Glyph.mk c colour).text ++ xs = (Glyph.mk c colour').text ++ ys) :
    colour = colour' ∧ xs = ys := by
  have noEscape : c ≠ '\x1b' := by
    rintro rfl
    exact absurd hc (by decide)
  obtain ⟨blue, hblue⟩ := Glyph.exists_text_blue c
  obtain ⟨red, hred⟩ := Glyph.exists_text_red c
  -- different colours begin differently
  cases colour <;> cases colour'
  case plain.plain | blue.blue | red.red => exact ⟨rfl, List.append_cancel_left h⟩
  all_goals simp [Glyph.text_plain, hblue, hred, noEscape, Ne.symm noEscape] at h

/-- The same text shows a line as the same glyphs only. -/
theorem eq_of_textOf_eq {shown shown' : List Glyph}
    (hchars : shown.map Glyph.char = shown'.map Glyph.char)
    (hothers : ∀ g ∈ shown, isParen g.char = false → g.colour = .plain)
    (hothers' : ∀ g ∈ shown', isParen g.char = false → g.colour = .plain)
    (h : textOf shown = textOf shown') : shown = shown' := by
  induction shown generalizing shown' with
  | nil => exact (List.map_eq_nil_iff.1 hchars.symm).symm
  | cons g shown ih =>
    cases shown' with
    | nil => cases hchars
    | cons g' shown' =>
      obtain ⟨c, colour⟩ := g
      obtain ⟨c', colour'⟩ := g'
      obtain ⟨rfl : c = c', htail⟩ := List.cons.inj hchars
      obtain ⟨hfirst, hothers⟩ := List.forall_mem_cons.1 hothers
      obtain ⟨hfirst', hothers'⟩ := List.forall_mem_cons.1 hothers'
      rw [textOf_cons, textOf_cons] at h
      have heads : colour = colour' ∧ textOf shown = textOf shown' := by
        by_cases hc : isParen c = true
        · exact eq_of_text_append_eq hc h
        · have plain : colour = .plain := hfirst (eq_false_of_ne_true hc)
          have plain' : colour' = .plain := hfirst' (eq_false_of_ne_true hc)
          subst plain plain'
          exact ⟨rfl, List.append_cancel_left h⟩
      rw [heads.1, ih htail hothers hothers' heads.2]

theorem Shown.unique {line text : String} {shown shown' : List Glyph} (h : Shown line text shown)
    (h' : Shown line text shown') : shown = shown' :=
  eq_of_textOf_eq (h.chars.trans h'.chars.symm) h.others h'.others
    (h.written.symm.trans h'.written)

end Unique

/-! ## What the colours say -/

/-- What the colours of the rest of a text, which stands at an offset, and those of the parentheses
    that are open before it say about the balance. -/
def ColoursSay (matched : List Pair) (stack : List Nat) (offset : Nat) (shown : List Glyph) :
    Balance → Prop
  | .balanced => ¬((∃ i ∈ stack, Unpaired matched i) ∨ ∃ g ∈ shown, g.colour = .red)
  | .incomplete => ((∃ i ∈ stack, Unpaired matched i) ∨ ∃ g ∈ shown, g.colour = .red) ∧
    ∀ g ∈ shown, g.colour = .red → g.char = '('
  | .unmatched place => ∃ before after, shown = before ++ ⟨')', .red⟩ :: after ∧
    ⟨')', .red⟩ ∉ before ∧ offset + byteLength (before.map Glyph.char) = place

namespace ColoursSay

variable {matched : List Pair} {stack stack' : List Nat} {offset cursor : Nat} {shown : List Glyph}
  {g : Glyph} {cs : List Char} {b b' : Balance}

/-- A glyph can be put before the others if it moves at most its own redness to the stack. -/
theorem cons (h : ColoursSay matched stack' (offset + g.char.utf8Size) shown b)
    (hred : g.colour = .red → g.char = '(')
    (hstack : (∃ i ∈ stack', Unpaired matched i) ↔
      g.colour = .red ∨ ∃ i ∈ stack, Unpaired matched i) :
    ColoursSay matched stack offset (g :: shown) b := by
  have some_red : ((∃ i ∈ stack, Unpaired matched i) ∨ ∃ g' ∈ g :: shown, g'.colour = .red) ↔
      (∃ i ∈ stack', Unpaired matched i) ∨ ∃ g' ∈ shown, g'.colour = .red := by
    rw [List.exists_mem_cons_iff, hstack, ← or_assoc, or_comm (a := g.colour = .red)]
  cases b with
  | balanced => exact mt some_red.1 h
  | incomplete => exact ⟨some_red.2 h.1, List.forall_mem_cons.2 ⟨hred, h.2⟩⟩
  | unmatched place =>
    obtain ⟨before, after, rfl, hbefore, hplace⟩ := h
    refine ⟨g :: before, after, rfl, ?_, ?_⟩
    · rw [List.mem_cons, not_or]
      refine ⟨?_, hbefore⟩
      rintro rfl
      exact absurd (hred rfl) (by decide)
    · rw [List.map_cons, Text.byteLength_cons, ← Nat.add_assoc, hplace]

/-- The count of the parentheses in the rest of a text, from the height of the stack, comes to what
    the colours say. -/
theorem ofChars (h : Pairing matched stack offset cs) (cursor : Nat) :
    ColoursSay matched stack offset (glyphsFrom (colourOf matched cursor) offset cs)
      (Balance.ofChars stack.length offset cs) := by
  induction cs generalizing stack offset with
  | nil =>
    cases stack with
    | nil => simp [Balance.ofChars, ColoursSay, glyphsFrom]
    | cons i stack =>
      exact ⟨.inl ⟨i, List.mem_cons_self, h.unpaired_of_mem List.mem_cons_self⟩,
        List.forall_mem_nil _⟩
  | cons c cs ih =>
    rcases paren_cases c with rfl | rfl | hc
    · -- the parenthesis is red if it is so on the stack
      have opened := ih h.openParen
      refine opened.cons (fun _ => rfl) ?_
      rw [List.exists_mem_cons_iff, colourOf_eq_red_iff]
      simp [isParen]
    · cases stack with
      | nil =>
        refine ⟨[], glyphsFrom (colourOf matched cursor) (offset + 1) cs, ?_, List.not_mem_nil, rfl⟩
        rw [glyphsFrom, colourOf_eq_red_iff.2 ⟨rfl, h.unpaired_closeParen⟩]
        rfl
      | cons opened stack =>
        -- what is closed is red neither here nor on the stack
        have paired : ∀ i, i = opened ∨ i = offset → ¬Unpaired matched i :=
          fun i hi hall => hall _ h.mem_matched hi
        have notRed : colourOf matched cursor offset ')' ≠ .red := fun hred =>
          paired _ (.inr rfl) (colourOf_eq_red_iff.1 hred).2
        refine (ih h.closeParen).cons (fun hred => absurd hred notRed) ?_
        rw [List.exists_mem_cons_iff]
        simp [notRed, paired opened (.inl rfl)]
    · obtain ⟨hopen, hclose⟩ := ne_of_isParen_eq_false hc
      have same : Balance.ofChars stack.length offset (c :: cs) =
          Balance.ofChars stack.length (offset + c.utf8Size) cs := by
        rw [Balance.ofChars.eq_def]
        dsimp only
        rw [if_neg hopen, if_neg hclose]
      rw [same, glyphsFrom, colourOf_other hc]
      exact (ih (h.skip (pairs_other hc _ _ _))).cons (by simp) (by simp)

/-- The colours do not say two things. -/
theorem unique (h : ColoursSay matched stack offset shown b)
    (h' : ColoursSay matched stack offset shown b') : b = b' := by
  -- a closing parenthesis in red rules out what is said of balanced and of incomplete texts
  have closing : ∀ {place : Nat}, ColoursSay matched stack offset shown (.unmatched place) →
      ⟨')', .red⟩ ∈ shown := by
    rintro place ⟨before, after, rfl, -⟩
    exact List.mem_append_right _ List.mem_cons_self
  cases b <;> cases b'
  case balanced.balanced | incomplete.incomplete => rfl
  case balanced.incomplete => exact absurd h'.1 h
  case incomplete.balanced => exact absurd h.1 h'
  case balanced.unmatched => exact absurd (.inr ⟨_, closing h', rfl⟩) h
  case unmatched.balanced => exact absurd (.inr ⟨_, closing h, rfl⟩) h'
  case incomplete.unmatched => exact absurd (h.2 _ (closing h') rfl) (by decide)
  case unmatched.incomplete => exact absurd (h'.2 _ (closing h) rfl) (by decide)
  case unmatched.unmatched =>
    obtain ⟨before, after, rfl, hbefore, rfl⟩ := h
    obtain ⟨before', after', heq, hbefore', rfl⟩ := h'
    -- both are the first of their kind
    rw [eq_of_append_cons_eq hbefore hbefore' heq]

end ColoursSay

/-- The colours of a line agree with its balance. -/
structure AgreesWithBalance (line : String) (cursor : Nat) (shown : List Glyph) : Prop where
  /-- The line is shown as these glyphs, and as no others. -/
  shown_iff : ∀ other, Shown line (highlight line cursor) other ↔ other = shown
  /-- A line is balanced exactly if nothing is red. -/
  balanced_iff : Balance.ofLine line.toList = .balanced ↔ ∀ g ∈ shown, g.colour ≠ .red
  /-- A parenthesis closes nothing exactly if it is the first closing one in red. -/
  unmatched_iff : ∀ offset, Balance.ofLine line.toList = .unmatched offset ↔
    ∃ before after, shown = before ++ ⟨')', .red⟩ :: after ∧ ⟨')', .red⟩ ∉ before ∧
      byteLength (before.map Glyph.char) = offset
  /-- A line is incomplete exactly if something is red, but no closing parenthesis. -/
  incomplete_iff : Balance.ofLine line.toList = .incomplete ↔
    (∃ g ∈ shown, g.colour = .red) ∧ ∀ g ∈ shown, g.colour = .red → g.char = '('
  /-- What is red does not depend on the cursor. -/
  red_congr : ∀ cursor' other, Shown line (highlight line cursor') other →
    other.map (fun g => decide (g.colour = .red)) = shown.map fun g => decide (g.colour = .red)

/-- The glyphs of a text are red or not wherever the cursor is. -/
theorem map_red_glyphsFrom (matched : List Pair) (cursor cursor' offset : Nat) (cs : List Char) :
    (glyphsFrom (colourOf matched cursor) offset cs).map (fun g => decide (g.colour = .red)) =
      (glyphsFrom (colourOf matched cursor') offset cs).map fun g => decide (g.colour = .red) := by
  induction cs generalizing offset with
  | nil => rfl
  | cons c cs ih =>
    rw [glyphsFrom, glyphsFrom, List.map_cons, List.map_cons, ih]
    simp only [colourOf_eq_red_iff]

/-- What is red in a line says whether it is balanced, incomplete or invalid, and where. -/
theorem highlight_agrees_with_balance (line : String) (cursor : Nat) :
    ∃ shown, AgreesWithBalance line cursor shown := by
  have told := ColoursSay.ofChars (Pairing.initial line.toList) cursor
  have told_iff : ∀ b, Balance.ofLine line.toList = b ↔
      ColoursSay (pairs [] 0 line.toList) [] 0 (glyphs line cursor) b := fun b =>
    ⟨fun h => h ▸ told, told.unique⟩
  refine ⟨glyphs line cursor, ?_, ?_, ?_, ?_, ?_⟩
  · exact fun other => ⟨fun h => h.unique (shown_glyphs line cursor),
      fun h => h ▸ shown_glyphs line cursor⟩
  · rw [told_iff]
    simp [ColoursSay]
  · intro offset
    rw [told_iff]
    simp only [ColoursSay, Nat.zero_add]
  · rw [told_iff]
    simp [ColoursSay]
  · intro cursor' other h
    rw [h.unique (shown_glyphs line cursor')]
    exact map_red_glyphsFrom _ _ _ _ _

end Bitwise.Session
