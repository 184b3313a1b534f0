import Bitwise.Proofs.Partners
import Bitwise.Session.Highlight

/-!
# Highlighting

The text that shows a line in colours is written and edited at the same time. What comes of all the
edits is the line, character by character, each in a colour (`Session.highlight_shows_partners`): a
parenthesis without a partner is red, one of the pair before the cursor is blue, and all else is
plain. Nothing of the line is lost, and nothing is added but the escapes that a terminal is sent for
the colours (`Session.Colour.escapes`).

Between two characters of the line the text has its final colours but for the parentheses that are
still open, which are plain, and the places that are kept are where these stand
(`Session.Layers`). Every edit takes one of them off.
-/

namespace Bitwise.Session

open Text (byteLength replaceByte?)

/-! ## Colours -/

/-- A character of a line with the colour that it is shown in. -/
structure Glyph where
  char : Char
  colour : Colour
  deriving DecidableEq

/-- The escape that a terminal is sent to show what follows in a colour, and the one that ends
    this. -/
def Colour.escapes : Colour → String × String
  | .plain => ("", "")
  | .blue => ("\x1b[1;34m", "\x1b[0m")
  | .red => ("\x1b[31m", "\x1b[0m")

/-- What is written to show a glyph: its character between the escapes of its colour. -/
def Glyph.text (g : Glyph) : List Char :=
  g.colour.escapes.1.toList ++ g.char :: g.colour.escapes.2.toList

/-- What is written to show glyphs, one after the other. -/
def textOf (shown : List Glyph) : List Char :=
  shown.flatMap Glyph.text

theorem textOf_cons (g : Glyph) (shown : List Glyph) :
    textOf (g :: shown) = g.text ++ textOf shown :=
  List.flatMap_cons

/-- The colour of a character that stands at an offset, given the pairs of parentheses of the text
    and the offset of the cursor. -/
def colourOf (matched : List Pair) (cursor offset : Nat) (c : Char) : Colour :=
  if isParen c = false then .plain
  else if Unpaired matched offset then .red
  else if ∃ p ∈ matched, p.Has offset ∧ 0 < cursor ∧ p.Has (cursor - 1) then .blue
  else .plain

/-- The characters of a text that stands at an offset, with their colours. -/
def glyphsFrom (colour : Nat → Char → Colour) (offset : Nat) : List Char → List Glyph
  | [] => []
  | c :: cs => ⟨c, colour offset c⟩ :: glyphsFrom colour (offset + c.utf8Size) cs

/-- The characters of a line, with their colours. -/
def glyphs (line : String) (cursor : Nat) : List Glyph :=
  glyphsFrom (colourOf (pairs [] 0 line.toList) cursor) 0 line.toList

section Colours

variable {colour : Nat → Char → Colour} {matched : List Pair} {stack : List Nat}
  {cursor offset opened i : Nat} {c : Char} {cs ds rest : List Char}

/-- A character is painted between the escapes of the colour. -/
theorem Colour.paint_eq (c : Char) (colour : Colour) :
    colour.paint c = (Glyph.mk c colour).text := by
  cases colour with
  | plain => rfl
  | blue | red => exact (List.append_cons _ _ _).symm

theorem colourOf_other (h : isParen c = false) : colourOf matched cursor offset c = .plain :=
  if_pos h

/-- The parentheses without a partner are red, wherever the cursor is. -/
theorem colourOf_eq_red_iff :
    colourOf matched cursor offset c = .red ↔ isParen c = true ∧ Unpaired matched offset := by
  rw [colourOf]
  split_ifs with hc hi hblue
  · simp [hc]
  · simp [hc, hi]
  · simp [hi]
  · simp [hi]

/-- Partners are of the same colour: blue at the cursor and plain elsewhere. -/
theorem Pairing.colourOf_eq (h : Pairing matched (opened :: stack) offset (')' :: rest))
    (hi : i = opened ∨ i = offset) (hc : isParen c = true) (cursor : Nat) :
    colourOf matched cursor i c =
      if 0 < cursor ∧ (Pair.mk opened offset).Has (cursor - 1) then .blue else .plain := by
  have partner : ¬Unpaired matched i := fun hall => hall _ h.mem_matched hi
  have atCursor : (∃ p ∈ matched, p.Has i ∧ 0 < cursor ∧ p.Has (cursor - 1)) ↔
      0 < cursor ∧ (Pair.mk opened offset).Has (cursor - 1) := by
    constructor
    · rintro ⟨p, hp, hhas, hcursor⟩
      rwa [h.eq_of_has hp hi hhas] at hcursor
    · exact fun hcursor => ⟨_, h.mem_matched, hi, hcursor⟩
  rw [colourOf, if_neg (by simp [hc]), if_neg partner, if_congr atCursor rfl rfl]

theorem beforeCursor_eq_some_iff : beforeCursor cursor = some i ↔ 0 < cursor ∧ i = cursor - 1 := by
  rw [beforeCursor]
  split_ifs with h
  · simp [h]
  · simp [Nat.pos_iff_ne_zero, h, eq_comm]

/-- The cursor is behind one of two parentheses. -/
theorem beforeCursor_iff : (beforeCursor cursor = some offset ∨ beforeCursor cursor = some opened) ↔
    0 < cursor ∧ (Pair.mk opened offset).Has (cursor - 1) := by
  rw [beforeCursor_eq_some_iff, beforeCursor_eq_some_iff, ← and_or_left, or_comm, eq_comm,
    @eq_comm _ offset]
  rfl

@[simp] theorem map_char_glyphsFrom (colour : Nat → Char → Colour) (offset : Nat)
    (cs : List Char) : (glyphsFrom colour offset cs).map Glyph.char = cs := by
  induction cs generalizing offset with
  | nil => rfl
  | cons c cs ih => rw [glyphsFrom, List.map_cons, ih]

theorem glyphsFrom_append (colour : Nat → Char → Colour) (offset : Nat) (cs ds : List Char) :
    glyphsFrom colour offset (cs ++ ds) =
      glyphsFrom colour offset cs ++ glyphsFrom colour (offset + byteLength cs) ds := by
  induction cs generalizing offset with
  | nil => rfl
  | cons c cs ih =>
    rw [List.cons_append, glyphsFrom, ih, glyphsFrom, List.cons_append, Text.byteLength_cons,
      Nat.add_assoc]

theorem colour_of_mem_glyphsFrom {g : Glyph}
    (h : g ∈ glyphsFrom (colourOf matched cursor) offset cs) (hg : isParen g.char = false) :
    g.colour = .plain := by
  induction cs generalizing offset with
  | nil => exact absurd h List.not_mem_nil
  | cons c cs ih =>
    rcases List.mem_cons.1 h with rfl | h
    · exact colourOf_other hg
    · exact ih h

end Colours

/-! ## Text that is written and edited -/

/-- The text written for the beginning of a line, while some of its parentheses are open: these are
    plain and stand at the places that are kept, and all else has its colour. -/
inductive Layers (colour : Nat → Char → Colour) : List OpenParen → List Char → List Char → Prop
  | nil : Layers colour [] [] []
  | char {opened : List OpenParen} {read text : List Char} {c : Char} :
    Layers colour opened read text →
      Layers colour opened (read ++ [c]) (text ++ (colour (byteLength read) c).paint c)
  | openParen {opened : List OpenParen} {read text : List Char} : Layers colour opened read text →
    Layers colour (⟨byteLength read, byteLength text⟩ :: opened) (read ++ ['(']) (text ++ ['('])

section Edits

variable {colour : Nat → Char → Colour} {matched : List Pair} {cursor : Nat}
  {opened : List OpenParen} {paren : OpenParen} {read rest text : List Char} {c : Char}

/-- The last open parenthesis stands in the text where it is kept, and in its colour it makes the
    text one with the others open. -/
theorem Layers.exists_close (h : Layers colour (paren :: opened) read text) :
    ∃ before after, text = before ++ '(' :: after ∧ byteLength before = paren.written ∧
      Layers colour opened read (before ++ ((colour paren.place '(').paint '(' ++ after)) := by
  generalize hopened : paren :: opened = all at h
  induction h with
  | nil => cases hopened
  | @char _ read _ c h ih =>
    obtain ⟨before, after, rfl, hwritten, hclosed⟩ := ih hopened
    refine ⟨before, after ++ (colour (byteLength read) c).paint c, by simp, hwritten, ?_⟩
    have longer := hclosed.char (c := c)
    rwa [List.append_assoc, List.append_assoc] at longer
  | @openParen _ read text h _ =>
    cases hopened
    refine ⟨text, [], rfl, rfl, ?_⟩
    rw [List.append_nil]
    exact h.char

/-- The last open parenthesis can be replaced by itself in its colour. -/
theorem Layers.replaceByte? (h : Layers colour (paren :: opened) read text) :
    ∃ text', replaceByte? text paren.written ((colour paren.place '(').paint '(') = some text' ∧
      Layers colour opened read text' := by
  obtain ⟨before, after, rfl, hwritten, hclosed⟩ := h.exists_close
  refine ⟨_, ?_, hclosed⟩
  rw [← hwritten]
  exact Text.replaceByte?_append rfl _ _ _

/-- When no parenthesis is open, all characters have their colours. -/
theorem Layers.eq_textOf (h : Layers colour [] read text) :
    text = textOf (glyphsFrom colour 0 read) := by
  generalize hopened : [] = opened at h
  induction h with
  | nil => rfl
  | @char _ read text c h ih =>
    rw [glyphsFrom_append, textOf, List.flatMap_append, ← textOf, ← ih hopened, Nat.zero_add]
    simp [glyphsFrom, Colour.paint_eq]
  | openParen _ => cases hopened

/-- In the middle of a line, with all pairs that are in it: the text is that of what has been read,
    and the parentheses that are kept are those on the stack. -/
structure Highlighter.Ready (matched : List Pair) (cursor : Nat) (read rest : List Char)
    (h : Highlighter) : Prop where
  layers : Layers (colourOf matched cursor) h.opened read h.text
  pairing : Pairing matched (h.opened.map OpenParen.place) (byteLength read) rest

namespace Highlighter

/-- A character without a partner before it is written in its colour. -/
theorem Ready.char {h : Highlighter} (hr : Ready matched cursor read (c :: rest) h)
    (hc : pairs (h.opened.map OpenParen.place) (byteLength read) (c :: rest) =
      pairs (h.opened.map OpenParen.place) (byteLength read + c.utf8Size) rest) :
    Ready matched cursor (read ++ [c]) rest
      ⟨h.opened, h.text ++ (colourOf matched cursor (byteLength read) c).paint c⟩ where
  layers := hr.layers.char
  pairing := by
    rw [Text.byteLength_append]
    exact hr.pairing.skip hc

/-- A closing parenthesis is written, with its partner in its colour. -/
theorem Ready.exists_close {h : Highlighter} (hr : Ready matched cursor read (')' :: rest) h) :
    ∃ h', h.close (beforeCursor cursor) (byteLength read) = some h' ∧
      Ready matched cursor (read ++ [')']) rest h' := by
  obtain ⟨opened, text⟩ := h
  cases opened with
  | nil =>
    have red : colourOf matched cursor (byteLength read) ')' = .red :=
      colourOf_eq_red_iff.2 ⟨rfl, hr.pairing.unpaired_closeParen⟩
    have written := hr.char rfl
    rw [red] at written
    exact ⟨_, rfl, written⟩
  | cons paren opened =>
    -- both are of the same colour, which is known now
    have same := hr.pairing.colourOf_eq (c := '(') (.inl rfl) rfl cursor
    have colour := hr.pairing.colourOf_eq (c := ')') (.inr rfl) rfl cursor
    have ready : ∀ {text' : List Char},
        Layers (colourOf matched cursor) opened (read ++ [')']) text' →
          Ready matched cursor (read ++ [')']) rest ⟨opened, text'⟩ := fun hlayers =>
      ⟨hlayers, by rw [Text.byteLength_append]; exact hr.pairing.closeParen⟩
    have longer := hr.layers.char (c := ')')
    rw [colour] at longer
    by_cases hcursor : 0 < cursor ∧ (Pair.mk paren.place (byteLength read)).Has (cursor - 1)
    · obtain ⟨text', htext', hlayers⟩ := longer.replaceByte?
      rw [same, if_pos hcursor] at htext'
      refine ⟨_, ?_, ready hlayers⟩
      rw [close.eq_def]
      dsimp only
      rw [if_pos (beforeCursor_iff.2 hcursor), htext', Option.map_some]
    · obtain ⟨before, after, htext, -, hlayers⟩ := longer.exists_close
      rw [same, if_neg hcursor] at hlayers
      rw [if_neg hcursor] at htext
      -- a plain parenthesis replaces itself
      have whole : Layers (colourOf matched cursor) opened (read ++ [')']) (text ++ [')']) :=
        htext.symm ▸ hlayers
      exact ⟨_, if_neg (mt beforeCursor_iff.1 hcursor), ready whole⟩

/-- Every character of a line is written. -/
theorem Ready.exists_write {h : Highlighter} (hr : Ready matched cursor read (c :: rest) h) :
    ∃ h', h.write (beforeCursor cursor) (byteLength read) c = some h' ∧
      Ready matched cursor (read ++ [c]) rest h' := by
  rcases paren_cases c with rfl | rfl | hc
  · refine ⟨_, rfl, hr.layers.openParen, ?_⟩
    rw [Text.byteLength_append]
    exact hr.pairing.openParen
  · exact hr.exists_close
  · obtain ⟨hopen, hclose⟩ := ne_of_isParen_eq_false hc
    have written := hr.char (pairs_other hc _ _ _)
    rw [colourOf_other hc] at written
    refine ⟨_, ?_, written⟩
    rw [write, if_neg hopen, if_neg hclose]
    rfl

theorem Ready.exists_writeAll {h : Highlighter} (hr : Ready matched cursor read rest h) :
    ∃ h', h.writeAll (beforeCursor cursor) (byteLength read) rest = some h' ∧
      Ready matched cursor (read ++ rest) [] h' := by
  induction rest generalizing read h with
  | nil =>
    rw [List.append_nil]
    exact ⟨h, rfl, hr⟩
  | cons c rest ih =>
    obtain ⟨h', hwrite, hr'⟩ := hr.exists_write
    obtain ⟨h'', hwriteAll, hr''⟩ := ih hr'
    rw [Text.byteLength_append] at hwriteAll
    rw [List.append_assoc] at hr''
    refine ⟨h'', ?_, hr''⟩
    rw [writeAll, hwrite, Option.bind_some]
    exact hwriteAll

/-- What is open at the end is replaced, one after the other. -/
theorem redden_eq (h : Layers colour opened read text)
    (hred : ∀ paren ∈ opened, colour paren.place '(' = .red) :
    redden opened text = some (textOf (glyphsFrom colour 0 read)) := by
  induction opened generalizing text with
  | nil => rw [redden, ← h.eq_textOf]
  | cons paren opened ih =>
    obtain ⟨hparen, hopened⟩ := List.forall_mem_cons.1 hred
    obtain ⟨text', htext', hlayers⟩ := h.replaceByte?
    rw [hparen] at htext'
    rw [redden, htext', Option.bind_some, ih hlayers hopened]

end Highlighter

/-- A line is shown by its characters, one after the other, each in its colour. -/
theorem highlight?_eq (line : String) (cursor : Nat) :
    highlight? line cursor = some (String.ofList (textOf (glyphs line cursor))) := by
  have start : Highlighter.Ready (pairs [] 0 line.toList) cursor [] line.toList .initial :=
    ⟨.nil, .initial _⟩
  obtain ⟨h, hwritten, hr⟩ := start.exists_writeAll
  have red : ∀ paren ∈ h.opened,
      colourOf (pairs [] 0 line.toList) cursor paren.place '(' = .red := fun paren hparen =>
    colourOf_eq_red_iff.2 ⟨rfl, hr.pairing.unpaired_of_mem (List.mem_map_of_mem hparen)⟩
  rw [Text.byteLength_nil] at hwritten
  rw [highlight?, hwritten, Option.bind_some, Highlighter.redden_eq hr.layers red]
  rfl

theorem highlight_eq (line : String) (cursor : Nat) :
    highlight line cursor = String.ofList (textOf (glyphs line cursor)) := by
  rw [highlight, highlight?_eq, Option.getD_some]

end Edits

/-! ## What is shown -/

/-- Text that shows a line as glyphs: the characters of the line one after the other, and only
    parentheses in a colour. -/
structure Shown (line text : String) (shown : List Glyph) : Prop where
  chars : shown.map Glyph.char = line.toList
  others : ∀ g ∈ shown, isParen g.char = false → g.colour = .plain
  written : text.toList = textOf shown

theorem shown_glyphs (line : String) (cursor : Nat) :
    Shown line (highlight line cursor) (glyphs line cursor) where
  chars := map_char_glyphsFrom _ _ _
  others _ hg := colour_of_mem_glyphsFrom hg
  written := by rw [highlight_eq, String.toList_ofList]

/-- What a line is shown as, wherever the cursor is. -/
structure ShowsPartners (line : String) (cursor : Nat) : Prop where
  /-- Every edit finds a parenthesis to replace. -/
  edited : highlight? line cursor = some (highlight line cursor)
  /-- The text is the line, each character in its colour. -/
  shown : Shown line (highlight line cursor) (glyphs line cursor)
  /-- The pairs that the colours come from are those of partners. -/
  partners : ∀ p, p ∈ pairs [] 0 line.toList ↔ Partners line.toList p

/-- A line is shown with its parentheses in the colours that their partners give them, and otherwise
    as it is. -/
theorem highlight_shows_partners (line : String) (cursor : Nat) : ShowsPartners line cursor where
  edited := by rw [highlight_eq, highlight?_eq]
  shown := shown_glyphs line cursor
  partners _ := mem_pairs_iff

/-- The cursor is behind the second parenthesis, the partner of which comes after a letter of two
    bytes. The first one has no partner. It is all that is in a colour when the cursor is at the
    beginning of the line. -/
theorem highlight_shows_partners_at_cursor :
    Partners "((é|1)".toList ⟨1, 6⟩ ∧
    highlight "((é|1)" 2 = "\x1b[31m(\x1b[0m\x1b[1;34m(\x1b[0mé|1\x1b[1;34m)\x1b[0m" ∧
    highlight "((é|1)" 0 = "\x1b[31m(\x1b[0m(é|1)" := by
  have atParen := highlight_shows_partners "((é|1)" 2
  have atStart := highlight_shows_partners "((é|1)" 0
  refine ⟨(atParen.partners _).1 (by decide), String.toList_inj.1 ?_, String.toList_inj.1 ?_⟩
  · exact atParen.shown.written.trans (by decide +kernel)
  · exact atStart.shown.written.trans (by decide +kernel)

end Bitwise.Session
